import Mathlib.Data.List.Forall2
import VisitBooking.Proofs.Service.Failures

/-!
# Publishing has no influence on what is stored

Two services run side by side on the same requests. They have one codec and one zone, and their
clocks show the same, but they may differ in whether they publish at all and under which topic, and
the transport may take a message on one side and refuse it on the other, differently at each step.
The stores never differ.

The answers differ in one way only. Apart from its publication an operation comes to one answer on
both sides, and `Responds` says how a side gives it: as it is, unless the side was refused an
attempt to announce the write. Then the write is in the store, and the side answers which event
could not be published to which topic.

## Main definitions

* `Service.Alike`, `Call.Alike`: what both sides have in common.
* `Service.Responds`: how a side gives an answer.

## Main results

* `Service.Alike.perform_eq`: neither the checks nor the transaction know of the publication.
* `Service.exists_responds`: the one answer of an operation.
* `Service.noninterference_of_run`: the headline.
-/

namespace VisitBooking

open Calendar Reference

/-- Two services that differ at most in whether and under which topic they publish. -/
structure Service.Alike (svc svc' : Service) : Prop where
  codec : svc'.codec = svc.codec
  zone : svc'.notifier.zone = svc.notifier.zone

/-- Two calls that differ at most in what the transport answers. -/
structure Call.Alike (c c' : Call) : Prop where
  readings : c'.readings = c.readings
  operation : c'.operation = c.operation

namespace Service

variable {svc svc' : Service} {c c' : Call} {calls calls' : List Call} {s s' : Store}

/-! ### The store -/

theorem Alike.prepare_eq (h : svc.Alike svc') (catalog : List SupportType) (now : Instant)
    (op : Operation) : svc'.prepare catalog now op = svc.prepare catalog now op := by
  have hclock : svc'.wallClock now = svc.wallClock now := by rw [wallClock, wallClock, h.zone]
  have htransaction : svc'.transaction now op = svc.transaction now op := by
    cases op <;> simp only [transaction, hclock]
  rw [prepare, prepare, htransaction]

/-- What an operation comes to and what it leaves in the store depend on the codec and the zone. -/
theorem Alike.perform_eq (h : svc.Alike svc') (hc : c.Alike c') (s : Store) :
    svc'.perform c'.readings c'.operation s = svc.perform c.readings c.operation s := by
  rw [perform, perform, hc.readings, hc.operation, h.prepare_eq, h.codec]

theorem Alike.next_eq (h : svc.Alike svc') (hc : c.Alike c') (s : Store) :
    svc'.next c' s = svc.next c s := by
  show (svc'.perform c'.readings c'.operation s).2 = (svc.perform c.readings c.operation s).2
  rw [h.perform_eq hc]

theorem Alike.after_eq (h : svc.Alike svc') (hcalls : List.Forall₂ Call.Alike calls calls')
    (s : Store) : svc'.after calls' s = svc.after calls s := by
  induction hcalls generalizing s with
  | nil => rfl
  | @cons c c' calls calls' hc _ ih =>
    show svc'.after calls' (svc'.next c' s) = svc.after calls (svc.next c s)
    rw [h.next_eq hc, ih]

/-! ### The answer -/

/-- How a side gives the answer `common`, which a call comes to apart from its publication. -/
inductive Responds (svc : Service) (c : Call) (s : Store) (common : Except Failure Answer) : Prop
  /-- No attempt is refused. -/
  | told (hattempt : ∀ a, (svc.report c s).attempt = some a → a.verdict ≠ .refused)
      (hresult : (svc.report c s).result = common)
  /-- The visit is written, and the attempt to announce it is refused. -/
  | unpublished (k : EventKind) (r : Row) (v : Visit)
      (h : svc.Unpublished c s (svc.next c s) (svc.report c s) k r v)
      (hresult : (svc.report c s).result = .error (.notPublished k.type svc.notifier.topic))
      (hcommon : common = .ok (.visit v))

/-- What an operation comes to, apart from its publication. -/
def commonAnswer : Except Refusal Effect → Except Failure Answer
  | .error reason => .error (.refused reason)
  | .ok e => e.result

/-- An effect that is announced is that of a write. -/
theorem Performed.commits_of_event {readings : Readings} {op : Operation} {e : Effect}
    (h : svc.Performed readings op s (.ok e) s') {k : EventKind} {v : Visit}
    (hevent : e.event = some (k, v)) :
    ∃ r, svc.Commits readings op s r s' ∧ r.visit = .ok v ∧ op.eventKind? = some k ∧
      e.result = .ok (.visit v) := by
  cases h with
  | missing | unreadable | declined | notAdmitted | notValid | answered => cases hevent
  | committed r _ hcommits =>
    cases hv : r.visit with
    | error fault =>
      rw [hv] at hevent
      cases hevent
    | ok w =>
      rw [hv] at hevent
      obtain ⟨k', hkind, hpair⟩ := Option.map_eq_some_iff.1 hevent
      cases hpair
      refine ⟨r, hcommits, hv, hkind, ?_⟩
      cases op with
      | migrate => cases hkind
      | _ => rfl

/-- The result of an effect is reported, unless an attempt to announce it is refused. -/
theorem announce_cases (verdict : Verdict) (e : Effect) :
    ((∀ a, (svc.announce verdict e).attempt = some a → a.verdict ≠ .refused) ∧
      (svc.announce verdict e).result = e.result) ∨
    ∃ k v, e.event = some (k, v) ∧
      (svc.announce verdict e).attempt = some ⟨svc.notifier.publication k v, .refused⟩ ∧
      (svc.announce verdict e).result = .error (.notPublished k.type svc.notifier.topic) := by
  unfold announce
  cases e.event with
  | none => exact .inl ⟨nofun, rfl⟩
  | some p =>
    cases svc.notifier.enabled with
    | false => exact .inl ⟨nofun, rfl⟩
    | true =>
      cases verdict with
      | accepted messageId => exact .inl ⟨fun a ha => by cases ha; exact nofun, rfl⟩
      | refused => exact .inr ⟨p.1, p.2, rfl, rfl, rfl⟩

/-- A call gives its one answer, unless an attempt to announce what it wrote is refused. -/
theorem exists_responds (wf : s.WellFormed) (c : Call) :
    svc.Responds c s (commonAnswer (svc.perform c.readings c.operation s).1) := by
  have hperformed : svc.Performed c.readings c.operation s
      (svc.perform c.readings c.operation s).1 (svc.next c s) :=
    svc.performed wf c.readings c.operation
  have hreport := svc.report_eq c s
  cases houtcome : (svc.perform c.readings c.operation s).1 with
  | error reason =>
    rw [houtcome] at hreport
    exact .told (fun a ha => by rw [hreport] at ha; cases ha) (by rw [hreport]; rfl)
  | ok e =>
    rw [houtcome] at hreport hperformed
    have hresult : (svc.report c s).result = (svc.announce c.verdict e).result := by
      rw [hreport]; rfl
    have hattempt : (svc.report c s).attempt = (svc.announce c.verdict e).attempt := by
      rw [hreport]; rfl
    rcases svc.announce_cases c.verdict e with ⟨htaken, hsame⟩ | ⟨k, v, hevent, hrefused, hfailed⟩
    · exact .told (hattempt ▸ htaken) (hresult.trans hsame)
    · obtain ⟨r, hcommits, hv, hkind, hanswer⟩ := hperformed.commits_of_event hevent
      have hstored := hcommits.findByReference_eq wf hv
      exact .unpublished k r v ⟨hkind, hcommits, hstored, hattempt.trans hrefused⟩
        (hresult.trans hfailed) hanswer

/-- The one answer is a failure only because of the request or of the store. -/
theorem Performed.commonAnswer_eq_error {readings : Readings} {op : Operation}
    {outcome : Except Refusal Effect} (h : svc.Performed readings op s outcome s') {f : Failure}
    (hf : commonAnswer outcome = .error f) :
    (∃ reference, f = .notFound reference) ∨ (∃ reason, f = .refused reason) ∨
      ∃ fault, f = .store fault := by
  cases h with
  | refused reason => exact .inr (.inl ⟨reason, (Except.error.inj hf).symm⟩)
  | missing reference => exact .inl ⟨reference, (Except.error.inj hf).symm⟩
  | unreadable r hr fault told => exact .inr (.inr ⟨told, (Except.error.inj hf).symm⟩)
  | declined r hr change hop v hv reason =>
    exact .inr (.inl ⟨reason, (Except.error.inj hf).symm⟩)
  | notAdmitted | notValid => exact .inr (.inr ⟨.constraint, (Except.error.inj hf).symm⟩)
  | committed r _ hcommits =>
    cases hv : r.visit with
    | error fault =>
      rw [hv] at hf
      exact .inr (.inr ⟨fault, (Except.error.inj hf).symm⟩)
    | ok v =>
      rw [hv] at hf
      cases hf
  | answered => cases hf

/-- The one answer does not speak of publication. -/
theorem Performed.commonAnswer_ne {readings : Readings} {op : Operation}
    {outcome : Except Refusal Effect} (h : svc.Performed readings op s outcome s')
    (type topic : String) : commonAnswer outcome ≠ .error (.notPublished type topic) := by
  intro hf
  rcases h.commonAnswer_eq_error hf with ⟨_, h⟩ | ⟨_, h⟩ | ⟨_, h⟩ <;> cases h

/-! ### The headline -/

/-- **Publication has no influence on what is stored.** Two services with one codec and one zone get
the same requests with the same readings of the clock; they may differ in whether and under which
topic they publish, and in what the transport answers them at any step. After any number of
requests their stores are equal, and so they are after one more. To this one there is one answer,
which does not speak of publication, and each side gives it, unless the side was refused the attempt
to announce a booking, a change of slot or a cancellation that it has written. Then it answers which
event could not be published to which topic. -/
theorem noninterference_of_run (svc svc' : Service) (halike : svc.Alike svc')
    (calls calls' : List Call) (hcalls : List.Forall₂ Call.Alike calls calls') (c c' : Call)
    (hc : c.Alike c') :
    let s := svc.after calls .empty
    svc'.after calls' .empty = s ∧ svc'.next c' s = svc.next c s ∧
    ∃ common : Except Failure Answer,
      (∀ type topic, common ≠ .error (.notPublished type topic)) ∧
      svc.Responds c s common ∧ svc'.Responds c' s common := by
  intro s
  have hs : s.WellFormed := (keyed_after (Store.keyed_empty svc.codec) calls).toWellFormed
  have hresponds' : svc'.Responds c' s _ := exists_responds hs c'
  rw [halike.perform_eq hc] at hresponds'
  exact ⟨halike.after_eq hcalls .empty, halike.next_eq hc s, _,
    (svc.performed hs c.readings c.operation).commonAnswer_ne, exists_responds hs c, hresponds'⟩

/-- A visit is booked and then cancelled, on one side with publication turned off and on the other
with every message refused. -/
theorem noninterference_of_run_refused :
    let svc : Service := default
    let svc' : Service :=
      { svc with notifier := { svc.notifier with enabled := true, topic := "t" } }
    let ends : LocalTime := ⟨⟨⟨1970, 1, 2, by decide⟩, default⟩, by decide⟩
    let create : Operation := .create { (default : CreateRequest) with ends }
    let cancel : Operation := .cancel (svc.codec.encode 1) (some ⟨.notRecorded, none⟩)
    let c : Call := ⟨default, .accepted "", cancel⟩
    let c' : Call := ⟨default, .refused, cancel⟩
    let calls : List Call := [⟨default, .accepted "", create⟩]
    let calls' : List Call := [⟨default, .refused, create⟩]
    let s := svc.after calls .empty
    svc.Alike svc' ∧ List.Forall₂ Call.Alike calls calls' ∧ c.Alike c' ∧
      (svc.report c s).result.isOk ∧
      (svc'.report c' s).result = .error (.notPublished EventKind.cancelled.type "t") ∧
      svc'.after calls' .empty = s ∧ svc'.next c' s = svc.next c s := by
  intro svc svc' ends create cancel c c' calls calls' s
  have halike : svc.Alike svc' := ⟨rfl, rfl⟩
  have hcalls : List.Forall₂ Call.Alike calls calls' := .cons ⟨rfl, rfl⟩ .nil
  have hc : c.Alike c' := ⟨rfl, rfl⟩
  obtain ⟨hafter, hnext, -⟩ :=
    noninterference_of_run svc svc' halike calls calls' hcalls c c' hc
  exact ⟨halike, hcalls, hc, by decide +kernel, by decide +kernel, hafter, hnext⟩

end Service

end VisitBooking
