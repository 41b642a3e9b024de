import VisitBooking.Proofs.Service.Lifecycle

/-!
# What a failure leaves behind

An operation may fail at many points: by a rule on the request, by a rule on the visit that it is
about, by a constraint of the store, or because the transport takes no message. Only the last of
these comes after the write. Then the write stays, and the one attempt to announce it has been made.
In all other cases the store is as it was and nothing has been handed to the transport.

This needs a clock that shows a year from 0 to 9999 when the store writes. What is written in any
other year cannot be read back, and the operation reports a fault although it has changed the store.

## Main definitions

* `Service.Unpublished`: how a call ends whose event is not taken.
* `Service.FailsSilently`: a failure of which nothing is handed to the transport.

## Main results

* `Service.attempt_announce`: what is handed to the transport.
* `Service.Performed.coarse`: the endings of an operation, by what they leave.
* `Service.failure_cases`: the two kinds of failure.
* `Service.failure_of_run`: the headline.
* `Service.failure_after_write_in_year_10000`: why the year matters.
-/

namespace VisitBooking

open Calendar Reference

namespace Service

variable {svc : Service} {readings : Readings} {verdict : Verdict} {op : Operation} {s s' : Store}

/-! ### Reports -/

/-- What an effect announces is handed to the transport, if anything is published at all. -/
theorem attempt_announce (e : Effect) :
    (svc.announce verdict e).attempt =
      if svc.notifier.enabled then e.event.map fun p => ⟨svc.notifier.publication p.1 p.2, verdict⟩
      else none := by
  unfold announce
  cases e.event with
  | none => simp
  | some p =>
    cases hon : svc.notifier.enabled with
    | false => simp
    | true => cases verdict <;> simp

/-- The result of an effect is reported, unless the event that tells of it is not taken. -/
theorem result_announce_cases (verdict : Verdict) (e : Effect) :
    (svc.announce verdict e).result = e.result ∨
      ∃ k v, e.event = some (k, v) ∧ svc.notifier.enabled ∧ verdict = .refused ∧
        (svc.announce verdict e).result = .error (.notPublished k.type svc.notifier.topic) := by
  unfold announce
  cases hevent : e.event with
  | none => exact .inl rfl
  | some p =>
    cases hon : svc.notifier.enabled with
    | false => exact .inl rfl
    | true =>
      cases verdict with
      | accepted messageId => exact .inl rfl
      | refused => exact .inr ⟨p.1, p.2, rfl, rfl, rfl, rfl⟩

/-! ### Failures -/

/-- A call has written a row, and the one attempt to announce what it made of the visit is refused.
-/
structure Unpublished (svc : Service) (c : Call) (s s' : Store) (report : Report) (k : EventKind)
    (r : Row) (v : Visit) : Prop where
  /-- The call is one that is announced. -/
  announced : c.operation.eventKind? = some k
  committed : svc.Commits c.readings c.operation s r s'
  /-- The visit is found as it was written. -/
  stored : s'.findByReference v.reference = .ok (some v)
  attempt : report.attempt = some ⟨svc.notifier.publication k v, .refused⟩

/-- A failure that is reported although nothing was handed to the transport. -/
def FailsSilently (svc : Service) (op : Operation) (outcome : Except Refusal Effect)
    (f : Failure) : Prop :=
  (∀ type topic, f ≠ .notPublished type topic) ∧
    ∀ verdict, (svc.conclude verdict op outcome).result = .error f ∧
      (svc.conclude verdict op outcome).attempt = none

/-- An operation fails without a trace, or it has written a row, or it has answered without a word
to anybody else. -/
theorem Performed.coarse {outcome : Except Refusal Effect}
    (h : svc.Performed readings op s outcome s') :
    (s' = s ∧ ∃ f, svc.FailsSilently op outcome f) ∨
      (∃ r, svc.Commits readings op s r s' ∧ outcome = .ok (op.written r.visit)) ∨
      ∃ a logs, op.insertion? = none ∧ op.revision? (svc.wallClock readings.now) = none ∧
        outcome = .ok (.ofAnswer a logs) := by
  cases h with
  | refused reason => exact .inl ⟨rfl, .refused reason, nofun, fun _ => ⟨rfl, rfl⟩⟩
  | missing reference => exact .inl ⟨rfl, .notFound reference, nofun, fun _ => ⟨rfl, rfl⟩⟩
  | unreadable r hr fault told => exact .inl ⟨rfl, .store told, nofun, fun _ => ⟨rfl, rfl⟩⟩
  | declined _ _ _ _ _ _ reason => exact .inl ⟨rfl, .refused reason, nofun, fun _ => ⟨rfl, rfl⟩⟩
  | notAdmitted => exact .inl ⟨rfl, .store .constraint, nofun, fun _ => ⟨rfl, rfl⟩⟩
  | notValid => exact .inl ⟨rfl, .store .constraint, nofun, fun _ => ⟨rfl, rfl⟩⟩
  | committed r _ hcommits => exact .inr (.inl ⟨r, hcommits, rfl⟩)
  | answered a logs hinsertion hrevision => exact .inr (.inr ⟨a, logs, hinsertion, hrevision, rfl⟩)

/-- What is written and read back is reported as a failure only if it is not published. -/
theorem conclude_written_eq_error {v : Visit} {f : Failure}
    (h : (svc.conclude verdict op (.ok (op.written (.ok v)))).result = .error f) :
    ∃ k, op.eventKind? = some k ∧ f = .notPublished k.type svc.notifier.topic ∧
      (svc.conclude verdict op (.ok (op.written (.ok v)))).attempt =
        some ⟨svc.notifier.publication k v, .refused⟩ := by
  have hresult : (svc.announce verdict (op.written (.ok v))).result = .error f := h
  have hattempt : (svc.conclude verdict op (.ok (op.written (.ok v)))).attempt =
      (svc.announce verdict (op.written (.ok v))).attempt := rfl
  rcases svc.result_announce_cases verdict (op.written (.ok v)) with
    hsame | ⟨k, w, hevent, hon, rfl, hrefused⟩
  · cases hsame.symm.trans hresult
  · obtain ⟨_, hk, hkw⟩ := Option.map_eq_some_iff.1 hevent
    obtain ⟨rfl, rfl⟩ := Prod.mk.inj hkw
    refine ⟨_, hk, (Except.error.inj (hrefused.symm.trans hresult)).symm, ?_⟩
    rw [hattempt, attempt_announce, if_pos hon, hevent]
    rfl

/-- A call fails without a trace, or it has written and is not published. -/
theorem failure_cases (wf : s.WellFormed) (c : Call) (hclock : c.readings.write.HasPlainYear)
    {f : Failure} (hf : (svc.report c s).result = .error f) :
    ((∀ type topic, f ≠ .notPublished type topic) ∧ svc.next c s = s ∧
      (svc.report c s).attempt = none) ∨
    ∃ k r v, f = .notPublished k.type svc.notifier.topic ∧
      svc.Unpublished c s (svc.next c s) (svc.report c s) k r v := by
  have hperformed := svc.performed wf c.readings c.operation
  have hnext : svc.next c s = (svc.perform c.readings c.operation s).2 := rfl
  rw [report_eq] at hf ⊢
  rw [hnext]
  rcases hperformed.coarse with ⟨hs, f', hfails⟩ | ⟨r, hcommits, houtcome⟩ |
    ⟨a, logs, -, -, houtcome⟩
  · obtain ⟨hresult, hattempt⟩ := hfails.2 c.verdict
    obtain rfl : f' = f := Except.error.inj (hresult.symm.trans hf)
    exact .inl ⟨hfails.1, hs, hattempt⟩
  · obtain ⟨v, hv⟩ := hcommits.visit_eq_ok wf hclock
    rw [houtcome, hv] at hf ⊢
    obtain ⟨k, hk, rfl, hattempt⟩ := conclude_written_eq_error hf
    exact .inr ⟨k, r, v, rfl, hk, hcommits, hcommits.findByReference_eq wf hv, hattempt⟩
  · rw [houtcome] at hf
    cases hf

/-! ### The headline -/

/-- Whatever calls came before, and whatever a call asks for: if it fails for any other reason than
that its event is not taken, then the store is as it was, the next identity included, and nothing
was handed to the transport. If its event is not taken, then it is a booking, a change of slot or a
cancellation, its row is written, the visit is found as it was written, and one attempt was made to
announce it. -/
theorem failure_of_run (svc : Service) (calls : List Call) (c : Call)
    (hclock : c.readings.write.HasPlainYear) (f : Failure) :
    let s := svc.after calls .empty
    let s' := svc.next c s
    let report := svc.report c s
    report.result = .error f →
      ((∀ type topic, f ≠ .notPublished type topic) → s' = s ∧ report.attempt = none) ∧
      ∀ type topic, f = .notPublished type topic →
        ∃ k r v, type = k.type ∧ topic = svc.notifier.topic ∧
          svc.Unpublished c s s' report k r v := by
  intro s s' report hf
  have hs : s.Keyed svc.codec := keyed_after (Store.keyed_empty svc.codec) calls
  rcases svc.failure_cases hs.toWellFormed c hclock hf with
    ⟨hother, hsame, hattempt⟩ | ⟨k, r, v, rfl, hunpublished⟩
  · exact ⟨fun _ => ⟨hsame, hattempt⟩, fun type topic h => absurd h (hother type topic)⟩
  · refine ⟨fun h => absurd rfl (h _ _), fun type topic h => ?_⟩
    obtain ⟨rfl, rfl⟩ := Failure.notPublished.inj h
    exact ⟨k, r, v, rfl, rfl, hunpublished⟩

/-- A visit is cancelled though the transport does not take the event that tells of it. -/
theorem failure_of_run_refused_cancel :
    let svc : Service := { (default : Service) with notifier.enabled := true }
    let ends : LocalTime := ⟨⟨⟨1970, 1, 2, by decide⟩, default⟩, by decide⟩
    let calls : List Call :=
      [⟨default, .accepted "", .create { (default : CreateRequest) with ends }⟩]
    let s := svc.after calls .empty
    let c : Call := ⟨default, .refused, .cancel (svc.codec.encode 1) (some ⟨.notRecorded, none⟩)⟩
    let report := svc.report c s
    c.readings.write.HasPlainYear ∧
      report.result = .error (.notPublished EventKind.cancelled.type svc.notifier.topic) ∧
      ∃ k r v, EventKind.cancelled.type = EventKind.type k ∧
        svc.Unpublished c s (svc.next c s) report k r v := by
  intro svc ends calls s c report
  have hclock : c.readings.write.HasPlainYear := by decide +kernel
  have hresult : report.result =
      .error (.notPublished EventKind.cancelled.type svc.notifier.topic) := by
    decide +kernel
  obtain ⟨k, r, v, htype, -, hunpublished⟩ :=
    (failure_of_run svc calls c hclock _ hresult).2 _ _ rfl
  exact ⟨hclock, hresult, k, r, v, htype, hunpublished⟩

/-- A booking that is written in the year 10000 fails, and not because of its event, but the store
has the visit. -/
theorem failure_after_write_in_year_10000 :
    let svc : Service := default
    let ends : LocalTime := ⟨⟨⟨1970, 1, 2, by decide⟩, default⟩, by decide⟩
    let write : Instant := ⟨⟨⟨10000, 1, 1, by decide⟩, default⟩, by decide⟩
    let c : Call := ⟨⟨default, write⟩, .accepted "",
      .create { (default : CreateRequest) with ends }⟩
    let s := svc.after [] .empty
    (svc.report c s).result = .error (.store .unreadableTime) ∧ svc.next c s ≠ s := by
  decide +kernel

end Service

end VisitBooking
