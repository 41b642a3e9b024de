import VisitBooking.Proofs.Json.ReadBack
import VisitBooking.Proofs.Json.Record
import VisitBooking.Proofs.Service.Failures
import VisitBooking.Proofs.Service.Serial

/-!
# What a run announces

A booking, a change of slot and a cancellation are announced when their row is written, once and
with what was written; nothing else is. Whether the transport takes a message has no bearing on
what comes after it. So a reference is booked once and cancelled at most once for those who listen,
however often a request is made again because its message was refused.

What is *due* is told by the writes alone. An announcement holds the visit as it is found in the
store right after the write, and an attempt answers to it if its payload, read as any listener would
read it, says so.

This needs a clock that shows a year from 0 to 9999 when a visit is booked, changed or cancelled. A
row that is written in any other year cannot be read back, and so there is nothing to announce.

## Main definitions

* `Service.attempts`: what is handed to the transport in a run.
* `Service.Due`: what is due to be announced.
* `Attempt.Answers`: an attempt tells of an announcement.
* `Service.PutsIn`: a reference is given out by a call.

## Main results

* `Envelope.ofValue_toJson`: an envelope is read back.
* `Service.attempts_of_due`: what is handed over is what is due.
* `Service.attempts_of_run`: the headline.
* `Service.attempts_after_write_in_year_10000`: why the year matters.
-/

namespace VisitBooking

open Calendar Json Reference

/-! ### Envelopes -/

theorem decodeNumber_natBelow? {bound n : Nat} (h : n < bound) :
    decodeNumber (Number.natBelow? bound) (Value.int n).tree = .ok n := by
  have hread : Number.natBelow? bound (.ofInt n) = some n := by
    simp only [Number.natBelow?, Number.int?_ofInt]
    rw [if_pos (by omega), Int.toNat_natCast]
  exact decodeNumber_int hread

/-- An envelope is read back from the object that it is written as. -/
theorem Envelope.ofValue_toJson (e : Envelope) (hversion : e.version < UInt32.size) :
    Envelope.decode.ofValue e.toJson = .ok e := by
  obtain ⟨type, version, description, occurredAt, prisoner, reference⟩ := e
  have hinfo : (Record.required "reference" decodeText).decode.ofValue
      (.object [("reference", .text reference)]) = .ok reference :=
    Record.Reads.ofValue_fields (.required rfl (readsBack_text reference)) (by decide) (.refl _)
  refine Record.Reads.ofValue_fields ?_ (by decide) (.refl _)
  exact (Record.Reads.required rfl (readsBack_text type)).map Envelope.mk
    |>.and (.required rfl (decodeNumber_natBelow? hversion))
    |>.and (.required rfl (readsBack_text description))
    |>.and (.required rfl (readsBack_text occurredAt))
    |>.and (.required rfl (readsBack_text prisoner))
    |>.and (.required rfl hinfo)

theorem EventKind.type_injective {k k' : EventKind} (h : k.type = k'.type) : k = k' := by
  cases k <;> cases k' <;> first | rfl | exact absurd h (by decide)

/-- The change, the visit as it is right after it, and what the transport will answer. -/
structure Announcement where
  kind : EventKind
  visit : Visit
  verdict : Verdict

/-- The attempt that a notifier makes for an announcement. -/
def Announcement.attempt (n : Notifier) (a : Announcement) : Attempt :=
  ⟨n.publication a.kind a.visit, a.verdict⟩

/-- An attempt tells of an announcement. -/
structure Attempt.Answers (n : Notifier) (a : Announcement) (t : Attempt) : Prop where
  verdict : t.verdict = a.verdict
  topic : t.publication.topic = n.topic
  attributes : t.publication.attributes = [("eventType", a.kind.type)]
  /-- What a listener reads. -/
  payload : ∃ e, Envelope.decode.run (.ofText t.publication.payload) = .ok e ∧
    e.type = a.kind.type ∧ e.prisoner = a.visit.details.prisoner ∧
    e.reference = a.visit.reference ∧
    (a.kind = .booked → e.occurredAt = n.zone.stamp a.visit.created) ∧
    (a.kind ≠ .booked → e.occurredAt = n.zone.stamp a.visit.modified)

theorem run_decode_publication (n : Notifier) (k : EventKind) (v : Visit) :
    Envelope.decode.run (.ofText (n.publication k v).payload) =
      .ok (n.envelope k v (k.occurred v)) := by
  have hversion : eventVersion < UInt32.size := by decide
  exact (Decoder.run_print _ _).trans (Envelope.ofValue_toJson _ hversion)

theorem Announcement.answers_attempt (n : Notifier) (a : Announcement) :
    (a.attempt n).Answers n a := by
  refine ⟨rfl, rfl, rfl, _, run_decode_publication n a.kind a.visit, rfl, rfl, rfl, ?_, ?_⟩
  · intro hbooked
    rw [hbooked]
    rfl
  · intro hother
    show n.zone.stamp (a.kind.occurred a.visit) = n.zone.stamp a.visit.modified
    cases hkind : a.kind with
    | booked => exact absurd hkind hother
    | changed => rfl
    | cancelled => rfl

/-- An announcement is about a change of a visit with the reference. -/
def Announcement.isOf (k : EventKind) (reference : String) (a : Announcement) : Bool :=
  decide (a.kind = k ∧ a.visit.reference = reference)

/-- A listener reads that a visit with the reference underwent a change. -/
def Attempt.isOf (k : EventKind) (reference : String) (t : Attempt) : Bool :=
  match Envelope.decode.run (.ofText t.publication.payload) with
  | .ok e => decide (e.type = k.type ∧ e.reference = reference)
  | .error _ => false

theorem Announcement.isOf_attempt (n : Notifier) (a : Announcement) (k : EventKind)
    (reference : String) : (a.attempt n).isOf k reference = a.isOf k reference := by
  have htype : a.kind.type = k.type ↔ a.kind = k :=
    ⟨EventKind.type_injective, congrArg EventKind.type⟩
  rw [Attempt.isOf, Announcement.attempt, run_decode_publication, Announcement.isOf,
    decide_eq_decide]
  exact and_congr_left' htype

namespace Service

variable {svc : Service} {s s' : Store} {c : Call} {calls : List Call} {r : Row} {v : Visit}

/-! ### One call -/

/-- What is handed to the transport in a run, in order. -/
def attempts (svc : Service) (calls : List Call) (s : Store) : List Attempt :=
  (svc.serve calls s).1.filterMap Report.attempt

theorem attempts_cons (svc : Service) (c : Call) (calls : List Call) (s : Store) :
    svc.attempts (c :: calls) s =
      (svc.report c s).attempt.toList ++ svc.attempts calls (svc.next c s) := by
  have hserve : svc.serve (c :: calls) s = (svc.report c s :: (svc.serve calls (svc.next c s)).1,
    (svc.serve calls (svc.next c s)).2) := rfl
  rw [attempts, hserve, List.filterMap_cons]
  cases (svc.report c s).attempt <;> rfl

theorem attempt_conclude (verdict : Verdict) (op : Operation) (e : Effect) :
    (svc.conclude verdict op (.ok e)).attempt =
      if svc.notifier.enabled then e.event.map fun p => ⟨svc.notifier.publication p.1 p.2, verdict⟩
      else none :=
  attempt_announce e

theorem attempt_of_disabled (hoff : svc.notifier.enabled = false) (c : Call) (s : Store) :
    (svc.report c s).attempt = none := by
  rw [report_eq]
  cases (svc.perform c.readings c.operation s).1 with
  | error reason => rfl
  | ok e => rw [attempt_conclude, hoff, if_neg Bool.false_ne_true]

/-- A write that is announced leads to one attempt, with the visit that was written. -/
theorem attempt_of_commits (hon : svc.notifier.enabled = true) (wf : s.WellFormed)
    (h : svc.Commits c.readings c.operation s r s') (hv : r.visit = .ok v) {k : EventKind}
    (hkind : c.operation.eventKind? = some k) :
    (svc.report c s).attempt = some (Announcement.attempt svc.notifier ⟨k, v, c.verdict⟩) := by
  rw [report_eq, perform_of_commits wf h, hv, attempt_conclude, if_pos hon]
  show (c.operation.eventKind?.map fun k => (k, v)).map _ = _
  rw [hkind]
  rfl

/-- A call that is not announced, or that writes nothing, leads to no attempt. -/
theorem attempt_eq_none (wf : s.WellFormed) (c : Call)
    (hsilent : c.operation.eventKind? = none ∨
      ∀ r s', ¬ svc.Commits c.readings c.operation s r s') :
    (svc.report c s).attempt = none := by
  have hperformed := svc.performed wf c.readings c.operation
  rw [report_eq]
  rcases hperformed.coarse with ⟨-, f, hfails⟩ | ⟨r, hcommits, houtcome⟩ | ⟨a, logs, -, -, houtcome⟩
  · exact (hfails.2 c.verdict).2
  · have hkind : c.operation.eventKind? = none :=
      hsilent.resolve_right fun h => h r _ hcommits
    have hevent : (c.operation.written r.visit).event = none := by
      cases r.visit with
      | error fault => rfl
      | ok v =>
        show (c.operation.eventKind?.map fun k => (k, v)) = none
        rw [hkind]
        rfl
    rw [houtcome, attempt_conclude, hevent]
    exact ite_self none
  · rw [houtcome, attempt_conclude]
    exact ite_self none

/-! ### What is due -/

/-- What is due to be announced of calls that are made one after the other. -/
inductive Due (svc : Service) : List Call → Store → List Announcement → Prop where
  | nil (s : Store) : Due svc [] s []
  /-- A visit is booked, changed or cancelled, and its row is written. -/
  | told {c : Call} {calls : List Call} {s : Store} {r : Row} {k : EventKind} {v : Visit}
      {due : List Announcement} (hkind : c.operation.eventKind? = some k)
      (hcommits : svc.Commits c.readings c.operation s r (svc.next c s)) (hv : r.visit = .ok v)
      (hstored : (svc.next c s).findByReference v.reference = .ok (some v))
      (rest : Due svc calls (svc.next c s) due) :
      Due svc (c :: calls) s (⟨k, v, c.verdict⟩ :: due)
  /-- The call is another one, or it writes nothing. -/
  | silent {c : Call} {calls : List Call} {s : Store} {due : List Announcement}
      (hsilent : c.operation.eventKind? = none ∨
        ∀ r s', ¬ svc.Commits c.readings c.operation s r s')
      (rest : Due svc calls (svc.next c s) due) : Due svc (c :: calls) s due

variable {due : List Announcement}

theorem next_eq_of_commits (wf : s.WellFormed) (h : svc.Commits c.readings c.operation s r s') :
    svc.next c s = s' :=
  congrArg Prod.snd (perform_of_commits wf h)

theorem exists_due (hs : s.Keyed svc.codec) (calls : List Call)
    (hclock : ∀ c ∈ calls, c.operation.eventKind?.isSome → c.readings.write.HasPlainYear) :
    ∃ due, svc.Due calls s due := by
  induction calls generalizing s with
  | nil => exact ⟨[], .nil s⟩
  | cons c calls ih =>
    obtain ⟨due, hdue⟩ := ih (keyed_next hs c)
      fun c' hc' => hclock c' (List.mem_cons_of_mem c hc')
    cases hkind : c.operation.eventKind? with
    | none => exact ⟨due, .silent (.inl hkind) hdue⟩
    | some k =>
      by_cases hcommits : ∃ r s', svc.Commits c.readings c.operation s r s'
      · obtain ⟨r, s', hcommits⟩ := hcommits
        obtain ⟨v, hv⟩ := hcommits.visit_eq_ok hs.toWellFormed
          (hclock c (List.mem_cons_self ..) (by rw [hkind]; rfl))
        have hstored := hcommits.findByReference_eq hs.toWellFormed hv
        obtain rfl := next_eq_of_commits hs.toWellFormed hcommits
        exact ⟨_, .told hkind hcommits hv hstored hdue⟩
      · exact ⟨due, .silent (.inr fun r s' h => hcommits ⟨r, s', h⟩) hdue⟩

/-- What is handed to the transport is what is due, in the order of the calls. -/
theorem attempts_of_due (hon : svc.notifier.enabled = true) (hs : s.Keyed svc.codec)
    (h : svc.Due calls s due) :
    svc.attempts calls s = due.map (Announcement.attempt svc.notifier) := by
  induction h with
  | nil => rfl
  | @told c calls s r k v due hkind hcommits hv _ _ ih =>
    rw [attempts_cons, attempt_of_commits hon hs.toWellFormed hcommits hv hkind,
      ih (keyed_next hs c)]
    rfl
  | @silent c calls s due hsilent _ ih =>
    rw [attempts_cons, attempt_eq_none hs.toWellFormed c hsilent, ih (keyed_next hs c)]
    rfl

theorem attempts_of_disabled (hoff : svc.notifier.enabled = false) (calls : List Call)
    (s : Store) : svc.attempts calls s = [] := by
  induction calls generalizing s with
  | nil => rfl
  | cons c calls ih =>
    rw [attempts_cons, attempt_of_disabled hoff, ih]
    rfl

/-! ### References -/

/-- In a run an operation puts a visit in, under a reference. -/
inductive PutsIn (svc : Service) (op : Operation) (reference : String) :
    List Call → Store → Prop where
  | now {c : Call} {calls : List Call} {s : Store} {r : Row} (hop : c.operation = op)
      (hinsertion : op.insertion?.isSome)
      (hcommits : svc.Commits c.readings c.operation s r (svc.next c s))
      (href : r.reference = reference) : PutsIn svc op reference (c :: calls) s
  | later {c : Call} {calls : List Call} {s : Store}
      (rest : PutsIn svc op reference calls (svc.next c s)) : PutsIn svc op reference (c :: calls) s

variable {op op' : Operation} {reference : String} {readings : Readings}

/-- A new row has the next reference. -/
theorem Commits.issues (h : svc.Commits readings op s r s') (hinsertion : op.insertion?.isSome) :
    r.reference = svc.codec.encode (s.lastId + 1) ∧ s'.lastId = s.lastId + 1 := by
  cases h with
  | insertion => exact ⟨rfl, rfl⟩
  | revision _ _ _ hop =>
    cases op with
    | create => cases hop
    | migrate => cases hop
    | _ => cases hinsertion

/-- A reference that is given out in a run is one that was not given out before. -/
theorem PutsIn.fresh (hs : s.Keyed svc.codec) (h : svc.PutsIn op reference calls s) :
    ∃ n, s.lastId < n ∧ reference = svc.codec.encode n := by
  induction h with
  | @now c calls s r hop hinsertion hcommits href =>
    obtain ⟨hissued, -⟩ := hcommits.issues (hop ▸ hinsertion)
    exact ⟨s.lastId + 1, Nat.lt_succ_self _, href.symm.trans hissued⟩
  | @later c calls s _ ih =>
    have hstep := svc.step_next hs.toWellFormed c
    obtain ⟨n, hn, href⟩ := ih (hstep.keyed hs)
    exact ⟨n, Nat.lt_of_le_of_lt hstep.lastId_le hn, href⟩

/-- A reference that a call has given out is not given out after it. -/
theorem not_putsIn_next (hs : s.Keyed svc.codec)
    (hcommits : svc.Commits c.readings c.operation s r (svc.next c s))
    (hinsertion : c.operation.insertion?.isSome) :
    ¬ svc.PutsIn op r.reference calls (svc.next c s) := by
  intro h
  obtain ⟨hissued, hlast⟩ := hcommits.issues hinsertion
  obtain ⟨n, hn, href⟩ := h.fresh (keyed_next hs c)
  have heq : s.lastId + 1 = n := svc.codec.encode_injective (hissued.symm.trans href)
  omega

/-- A reference is given out by one operation only. -/
theorem PutsIn.unique (hs : s.Keyed svc.codec) (h : svc.PutsIn op reference calls s)
    (h' : svc.PutsIn op' reference calls s) : op = op' := by
  induction h with
  | @now c calls s r hop hinsertion hcommits href =>
    cases h' with
    | now hop' => exact hop.symm.trans hop'
    | later rest' =>
      exact absurd (href ▸ rest') (not_putsIn_next hs hcommits (hop ▸ hinsertion))
  | @later c calls s rest ih =>
    cases h' with
    | now hop' hinsertion' hcommits' href' =>
      exact absurd (href' ▸ rest) (not_putsIn_next hs hcommits' (hop' ▸ hinsertion'))
    | later rest' => exact ih (keyed_next hs c) rest'

/-! ### How often a reference is told of -/

/-- How often a listener reads that a visit with the reference underwent a change. -/
def timesTold (svc : Service) (k : EventKind) (reference : String) (calls : List Call) : Nat :=
  (svc.attempts calls .empty).countP (Attempt.isOf k reference)

theorem timesTold_eq (hon : svc.notifier.enabled = true) (h : svc.Due calls .empty due)
    (k : EventKind) (reference : String) :
    svc.timesTold k reference calls = due.countP (Announcement.isOf k reference) := by
  rw [timesTold, attempts_of_due hon (Store.keyed_empty svc.codec) h, List.countP_map]
  refine List.countP_congr fun a _ => ?_
  rw [Function.comp_apply, Announcement.isOf_attempt]

theorem eventKind?_eq_booked_iff :
    op.eventKind? = some .booked ↔ ∃ request, op = .create request := by
  cases op <;> simp [Operation.eventKind?]

theorem eventKind?_eq_cancelled_iff :
    op.eventKind? = some .cancelled ↔ ∃ reference reason, op = .cancel reference reason := by
  cases op <;> simp [Operation.eventKind?]

/-- A committed cancellation is of the visit with its reference. It has not been cancelled before,
and it is for good from then on. -/
theorem Commits.of_cancel {reason : Option CancelReason} (hs : s.Keyed svc.codec)
    (h : svc.Commits readings (.cancel reference reason) s r s') (hv : r.visit = .ok v) :
    v.reference = reference ∧ (∀ r₀, ¬ s.Settled svc.codec reference r₀) ∧
      ∃ r₁, s'.Settled svc.codec reference r₁ := by
  have hstep := step_of_commits hs.toWellFormed h
  rw [hv] at hstep
  obtain ⟨-, r₁, -, hsettled, -⟩ := hstep.of_cancel hs rfl
  refine ⟨?_, fun r₀ hr₀ => not_ok_of_settled hr₀ hstep hs rfl, r₁, hsettled⟩
  rw [h.reference_eq hs.toWellFormed hv]
  cases h with
  | insertion _ hop => cases hop
  | revision r hr change hop => exact (Prod.mk.inj (Option.some.inj hop)).1.symm

/-- A call that does not book a visit under the reference has no say in whether one is booked. -/
theorem exists_putsIn_cons_iff
    (hnow : ∀ r, c.operation.eventKind? = some .booked →
      svc.Commits c.readings c.operation s r (svc.next c s) → r.reference ≠ reference) :
    (∃ request, svc.PutsIn (.create request) reference (c :: calls) s) ↔
      ∃ request, svc.PutsIn (.create request) reference calls (svc.next c s) := by
  constructor
  · rintro ⟨request, h⟩
    cases h with
    | now hop _ hcommits href => exact absurd href (hnow _ (by rw [hop]; rfl) hcommits)
    | later rest => exact ⟨request, rest⟩
  · rintro ⟨request, rest⟩
    exact ⟨request, .later rest⟩

/-- A reference that is booked in a run is told of as booked once, and any other never. -/
theorem Due.countP_booked (hs : s.Keyed svc.codec) (h : svc.Due calls s due) (reference : String) :
    ((∃ request, svc.PutsIn (.create request) reference calls s) →
      due.countP (Announcement.isOf .booked reference) = 1) ∧
    ((¬ ∃ request, svc.PutsIn (.create request) reference calls s) →
      due.countP (Announcement.isOf .booked reference) = 0) := by
  induction h with
  | nil => exact ⟨fun ⟨_, h⟩ => (nomatch h), fun _ => rfl⟩
  | @told c calls s r k v due hkind hcommits hv _ _ ih =>
    have ih := ih (keyed_next hs c)
    have href := hcommits.reference_eq hs.toWellFormed hv
    by_cases hof : Announcement.isOf .booked reference ⟨k, v, c.verdict⟩ = true
    · -- The call books the visit, so none of those after it does.
      rw [List.countP_cons_of_pos hof]
      obtain ⟨rfl, rfl⟩ := of_decide_eq_true hof
      obtain ⟨request, hop⟩ := eventKind?_eq_booked_iff.1 hkind
      have hinsertion : c.operation.insertion?.isSome := by rw [hop]; rfl
      have hputs : svc.PutsIn (.create request) v.reference (c :: calls) s :=
        .now hop (hop ▸ hinsertion) hcommits href.symm
      have hrest : ¬ ∃ request, svc.PutsIn (.create request) v.reference calls (svc.next c s) :=
        fun ⟨_, h⟩ => not_putsIn_next hs hcommits hinsertion (href ▸ h)
      exact ⟨fun _ => congrArg (· + 1) (ih.2 hrest), fun h => absurd ⟨request, hputs⟩ h⟩
    · rw [List.countP_cons_of_neg hof, exists_putsIn_cons_iff]
      · exact ih
      · intro r' hbooked hcommits' href'
        refine hof (decide_eq_true ⟨Option.some.inj (hkind.symm.trans hbooked), ?_⟩)
        obtain ⟨request, hop⟩ := eventKind?_eq_booked_iff.1 hbooked
        have hinsertion : c.operation.insertion?.isSome := by rw [hop]; rfl
        calc v.reference = r.reference := href
          _ = svc.codec.encode (s.lastId + 1) := (hcommits.issues hinsertion).1
          _ = r'.reference := (hcommits'.issues hinsertion).1.symm
          _ = reference := href'
  | @silent c calls s due hsilent _ ih =>
    rw [exists_putsIn_cons_iff]
    · exact ih (keyed_next hs c)
    · intro r hbooked hcommits
      rcases hsilent with hkind | hnot
      · cases hkind.symm.trans hbooked
      · exact absurd hcommits (hnot r _)

/-- A reference that is cancelled for good is not told of as cancelled any more. -/
theorem Due.countP_cancelled_of_settled (hs : s.Keyed svc.codec) (h : svc.Due calls s due)
    (hr : s.Settled svc.codec reference r) :
    due.countP (Announcement.isOf .cancelled reference) = 0 := by
  induction h with
  | nil => rfl
  | @told c calls s r' k v due hkind hcommits hv _ _ ih =>
    have hnot : ¬ Announcement.isOf .cancelled reference ⟨k, v, c.verdict⟩ = true := by
      intro hof
      obtain ⟨rfl, rfl⟩ := of_decide_eq_true hof
      obtain ⟨reference, reason, hop⟩ := eventKind?_eq_cancelled_iff.1 hkind
      obtain ⟨rfl, hlive, -⟩ := (hop ▸ hcommits :).of_cancel hs hv
      exact hlive r hr
    rw [List.countP_cons_of_neg hnot]
    exact ih (keyed_next hs c) (settled_after hs hr [c])
  | @silent c calls s due _ _ ih =>
    exact ih (keyed_next hs c) (settled_after hs hr [c])

/-- A reference is told of as cancelled at most once. -/
theorem Due.countP_cancelled_le (hs : s.Keyed svc.codec) (h : svc.Due calls s due)
    (reference : String) : due.countP (Announcement.isOf .cancelled reference) ≤ 1 := by
  induction h with
  | nil => exact Nat.zero_le 1
  | @told c calls s r k v due hkind hcommits hv _ rest ih =>
    have hs' := keyed_next hs c
    by_cases hof : Announcement.isOf .cancelled reference ⟨k, v, c.verdict⟩ = true
    · rw [List.countP_cons_of_pos hof]
      obtain ⟨rfl, rfl⟩ := of_decide_eq_true hof
      obtain ⟨reference, reason, hop⟩ := eventKind?_eq_cancelled_iff.1 hkind
      obtain ⟨rfl, -, r', hr'⟩ := (hop ▸ hcommits :).of_cancel hs hv
      exact Nat.le_of_eq (congrArg (· + 1) (rest.countP_cancelled_of_settled hs' hr'))
    · rw [List.countP_cons_of_neg hof]
      exact ih hs'
  | @silent c calls s due _ _ ih => exact ih (keyed_next hs c)

/-! ### The headline -/

/-- Whatever calls come and whatever the transport answers: if nothing is to be published, nothing
is handed to the transport. Otherwise there is one attempt for each booking, change of slot and
cancellation that is written, in the order of the calls, and no other; each goes to the configured
topic, with the type of its event as an attribute, and its payload says what was written. Over the
whole run a reference is told of as booked once if it was booked, never if it was imported or not
given out at all, and as cancelled at most once. -/
theorem attempts_of_run (svc : Service) (calls : List Call)
    (hclock : ∀ c ∈ calls, c.operation.eventKind?.isSome → c.readings.write.HasPlainYear) :
    (svc.notifier.enabled = false → svc.attempts calls .empty = []) ∧
    (svc.notifier.enabled = true →
      (∃ due, svc.Due calls .empty due ∧
        List.Forall₂ (Attempt.Answers svc.notifier) due (svc.attempts calls .empty)) ∧
      ∀ reference,
        ((∃ request, svc.PutsIn (.create request) reference calls .empty) →
          svc.timesTold .booked reference calls = 1) ∧
        ((∃ request, svc.PutsIn (.migrate request) reference calls .empty) →
          svc.timesTold .booked reference calls = 0) ∧
        ((¬ ∃ request, svc.PutsIn (.create request) reference calls .empty) →
          svc.timesTold .booked reference calls = 0) ∧
        svc.timesTold .cancelled reference calls ≤ 1) := by
  have hs : Store.empty.Keyed svc.codec := Store.keyed_empty svc.codec
  refine ⟨fun hoff => attempts_of_disabled hoff calls .empty, fun hon => ?_⟩
  obtain ⟨due, hdue⟩ := exists_due hs calls hclock
  refine ⟨⟨due, hdue, ?_⟩, fun reference => ?_⟩
  · rw [attempts_of_due hon hs hdue, List.forall₂_map_right_iff, List.forall₂_same]
    exact fun a _ => a.answers_attempt svc.notifier
  · rw [timesTold_eq hon hdue, timesTold_eq hon hdue]
    obtain ⟨hbooked, hother⟩ := hdue.countP_booked hs reference
    refine ⟨hbooked, ?_, hother, hdue.countP_cancelled_le hs reference⟩
    rintro ⟨request, himported⟩
    exact hother fun ⟨request', hcreated⟩ => nomatch himported.unique hs hcreated

/-- A cancellation is made again because its message was refused, and is not announced again. -/
theorem attempts_of_run_repeated_cancel :
    let svc : Service := { (default : Service) with notifier.enabled := true }
    let ends : LocalTime := ⟨⟨⟨1970, 1, 2, by decide⟩, default⟩, by decide⟩
    let cancel : Operation := .cancel (svc.codec.encode 1) (some ⟨.notRecorded, none⟩)
    let calls : List Call :=
      [⟨default, .accepted "", .create { (default : CreateRequest) with ends }⟩,
        ⟨default, .refused, cancel⟩, ⟨default, .accepted "", cancel⟩]
    (∀ c ∈ calls, c.operation.eventKind?.isSome → c.readings.write.HasPlainYear) ∧
      (svc.attempts calls .empty).map Attempt.verdict = [.accepted "", .refused] ∧
      svc.timesTold .cancelled (svc.codec.encode 1) calls ≤ 1 := by
  intro svc ends cancel calls
  have hclock : ∀ c ∈ calls, c.operation.eventKind?.isSome → c.readings.write.HasPlainYear := by
    decide +kernel
  have hverdicts : (svc.attempts calls .empty).map Attempt.verdict = [.accepted "", .refused] := by
    decide +kernel
  have hcancelled := (((attempts_of_run svc calls hclock).2 rfl).2 (svc.codec.encode 1)).2.2.2
  exact ⟨hclock, hverdicts, hcancelled⟩

/-- A booking that is written in the year 10000 is committed and not announced. -/
theorem attempts_after_write_in_year_10000 :
    let svc : Service := { (default : Service) with notifier.enabled := true }
    let ends : LocalTime := ⟨⟨⟨1970, 1, 2, by decide⟩, default⟩, by decide⟩
    let write : Instant := ⟨⟨⟨10000, 1, 1, by decide⟩, default⟩, by decide⟩
    let request : CreateRequest := { (default : CreateRequest) with ends }
    let c : Call := ⟨⟨default, write⟩, .accepted "", .create request⟩
    (∃ r, svc.Commits c.readings c.operation .empty r (svc.next c .empty)) ∧
      svc.attempts [c] .empty = [] := by
  intro svc ends write request c
  have hready : c.operation.Ready Store.empty.catalog := ⟨by decide +kernel, rfl⟩
  have hadmits : Store.empty.Admits (Store.empty.newRow svc.codec write request.details) := by
    decide +kernel
  have hcommits : svc.Commits c.readings c.operation .empty _ _ :=
    .insertion request.details rfl hready hadmits
  have hnext : svc.next c .empty = _ := next_eq_of_commits Store.wellFormed_empty hcommits
  have hattempts : svc.attempts [c] .empty = [] := by decide +kernel
  exact ⟨⟨_, hnext ▸ hcommits⟩, hattempts⟩

end Service

end VisitBooking
