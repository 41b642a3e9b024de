import Mathlib.Logic.Function.Basic
import VisitBooking.Proofs.Service.Serial

/-!
# Requests at the same time

Any number of requests work on one store, and their steps interleave in any way. A request is
checked by itself, looks up the support that it needs in the catalog, one need a step, reads the
clock for its transaction and for its write, runs its transaction, and makes its publication if
there is one. Of these steps only the look-ups and the transaction touch the store, and a
transaction happens as a whole.

The requests come out as if they had been made one after the other, in the order of their
transactions. The reason is that what a request finds out before its transaction, others cannot
change: the catalog is the same throughout. Everything that depends on the visit is checked in the
transaction.

Clock readings and the answer of the transport are part of a request (`Call`), so they are the same
in both ways of running it.

## Main definitions

* `Phase`: how far a request has come.
* `World`, `World.step`, `World.run`: requests at work.
* `World.Sound`: phases, store and log agree.

## Main results

* `World.Sound.step_cases`: a step is a private matter of its request, or a whole transaction.
* `World.Sound.run`: every world that comes about is sound.
* `World.interleaving_serializable`: the headline.
-/

namespace VisitBooking

open Calendar Reference

/-- How far a request has come. -/
inductive Phase where
  /-- It has come in. -/
  | waiting
  /-- These needs are to be looked up in the catalog. -/
  | checking (needs : List SupportNeed)
  /-- It has looked at the clock. -/
  | timed (t : Transaction)
  /-- It has looked at the clock once more, for the store to write. -/
  | ready (t : Transaction) (write : Instant)
  /-- Its transaction has run, or it was refused before that. -/
  | performed (outcome : Except Refusal Effect)
  /-- Its publication is made, if there is one, and it is answered. -/
  | finished (report : Report)

/-- A store, and requests at work on it. The requests are given by their names. -/
structure World (ι : Type) where
  store : Store
  phase : ι → Phase
  /-- The transactions that have run, in order, and their effects. -/
  log : List (ι × Effect)

namespace World

variable {ι : Type} [DecidableEq ι]

/-- Requests that have come in. -/
def start (s : Store) : World ι := ⟨s, fun _ => .waiting, []⟩

/-- One request is in another phase. -/
def advance (w : World ι) (i : ι) (p : Phase) : World ι :=
  { w with phase := Function.update w.phase i p }

/-- A request takes its next step. -/
def step (svc : Service) (calls : ι → Call) (w : World ι) (i : ι) : World ι :=
  let op := (calls i).operation
  match w.phase i with
  | .waiting =>
    match op.check with
    | .error reason => w.advance i (.performed (.error reason))
    | .ok () => w.advance i (.checking op.support)
  | .checking [] => w.advance i (.timed (svc.transaction (calls i).readings.now op))
  | .checking (need :: needs) =>
    if (w.store.supportType? need.type).isNone then
      w.advance i (.performed (.error (.unknownSupport need.type)))
    else w.advance i (.checking needs)
  | .timed t => w.advance i (.ready t (calls i).readings.write)
  | .ready t write =>
    let (effect, store) := t.run svc.codec write w.store
    ⟨store, Function.update w.phase i (.performed (.ok effect)), w.log ++ [(i, effect)]⟩
  | .performed outcome => w.advance i (.finished (svc.conclude (calls i).verdict op outcome))
  | .finished _ => w

/-- The world after the requests of a schedule have taken a step each, one after the other. -/
def run (svc : Service) (calls : ι → Call) (schedule : List ι) (w : World ι) : World ι :=
  schedule.foldl (step svc calls) w

/-- The requests whose transactions have run, in the order of the transactions. -/
def transacted (w : World ι) : List ι := w.log.map Prod.fst

/-- The report of a request, which is settled when its transaction has run or it is refused. -/
def report? (svc : Service) (calls : ι → Call) (w : World ι) (i : ι) : Option Report :=
  match w.phase i with
  | .performed outcome => some (svc.conclude (calls i).verdict (calls i).operation outcome)
  | .finished report => some report
  | _ => none

end World

/-! ### Soundness -/

/-- What came of a request, as the log and the catalog have it. -/
def CameTo (svc : Service) (c : Call) (catalog : List SupportType) {ι : Type}
    (log : List (ι × Effect)) (i : ι) : Except Refusal Effect → Prop
  | .ok e => (i, e) ∈ log
  | .error reason => i ∉ log.map Prod.fst ∧
      svc.prepare catalog c.readings.now c.operation = .error reason

/-- The phase of a request is what the log and the catalog make of it. -/
def Phase.Sound (svc : Service) (c : Call) (catalog : List SupportType) {ι : Type}
    (log : List (ι × Effect)) (i : ι) : Phase → Prop
  | .waiting => i ∉ log.map Prod.fst
  | .checking needs => i ∉ log.map Prod.fst ∧
      svc.prepare catalog c.readings.now c.operation = (do
        checkSupport catalog needs
        return svc.transaction c.readings.now c.operation)
  | .timed t => i ∉ log.map Prod.fst ∧
      svc.prepare catalog c.readings.now c.operation = .ok t
  | .ready t write => i ∉ log.map Prod.fst ∧
      svc.prepare catalog c.readings.now c.operation = .ok t ∧ write = c.readings.write
  | .performed outcome => CameTo svc c catalog log i outcome
  | .finished report => ∃ outcome, CameTo svc c catalog log i outcome ∧
      report = svc.conclude c.verdict c.operation outcome

/-- The log leads from the first store to the present one, and each request is in a phase that
agrees with it. -/
structure World.Sound {ι : Type} (svc : Service) (calls : ι → Call) (first : Store) (w : World ι) :
    Prop where
  trace : svc.Trace calls w.log first w.store
  nodup : w.transacted.Nodup
  phases : ∀ i, (w.phase i).Sound svc (calls i) first.catalog w.log i

/-- The transaction of one request makes no difference to the phase of another. -/
theorem Phase.Sound.concat {svc : Service} {c : Call} {catalog : List SupportType} {ι : Type}
    {log : List (ι × Effect)} {i j : ι} {e : Effect} {p : Phase} (hj : j ≠ i)
    (h : p.Sound svc c catalog log j) : p.Sound svc c catalog (log ++ [(i, e)]) j := by
  have hnew : j ∉ log.map Prod.fst → j ∉ (log ++ [(i, e)]).map Prod.fst := by
    intro hlog
    simpa using ⟨by simpa using hlog, hj⟩
  have hcame : ∀ outcome, CameTo svc c catalog log j outcome →
      CameTo svc c catalog (log ++ [(i, e)]) j outcome := by
    rintro (reason | e') hcame
    · exact ⟨hnew hcame.1, hcame.2⟩
    · exact List.mem_append_left _ hcame
  cases p with
  | waiting => exact hnew h
  | checking needs => exact ⟨hnew h.1, h.2⟩
  | timed t => exact ⟨hnew h.1, h.2⟩
  | ready t write => exact ⟨hnew h.1, h.2⟩
  | performed outcome => exact hcame outcome h
  | finished report =>
    obtain ⟨outcome, h, hreport⟩ := h
    exact ⟨outcome, hcame outcome h, hreport⟩

theorem Service.prepare_of_check_eq_error {svc : Service} {catalog : List SupportType}
    {now : Instant} {op : Operation} {reason : Refusal} (h : op.check = .error reason) :
    svc.prepare catalog now op = .error reason := by
  rw [prepare, h]
  rfl

theorem Service.prepare_of_check_eq_ok {svc : Service} {catalog : List SupportType}
    {now : Instant} {op : Operation} (h : op.check = .ok ()) :
    svc.prepare catalog now op = (do
      checkSupport catalog op.support
      return svc.transaction now op) := by
  rw [prepare, h]
  rfl

namespace World

variable {ι : Type} {svc : Service} {calls : ι → Call} {first : Store} {w : World ι}

theorem sound_start (svc : Service) (calls : ι → Call) (first : Store) :
    (start first : World ι).Sound svc calls first where
  trace := .nil first
  nodup := .nil
  phases _ := List.not_mem_nil

theorem Sound.catalog_eq (hw : w.Sound svc calls first) (hfirst : first.Keyed svc.codec) :
    w.store.catalog = first.catalog :=
  hw.trace.catalog_eq hfirst

/-- Each request has one effect at most. -/
theorem Sound.eq_of_fst_eq (hw : w.Sound svc calls first) {p q : ι × Effect} (hp : p ∈ w.log)
    (hq : q ∈ w.log) (h : p.1 = q.1) : p = q :=
  List.inj_on_of_nodup_map hw.nodup hp hq h

/-- The report of a request is what its effect or its refusal leads to. -/
theorem Sound.of_report?_eq_some (hw : w.Sound svc calls first) {i : ι} {report : Report}
    (h : w.report? svc calls i = some report) :
    ∃ outcome, CameTo svc (calls i) first.catalog w.log i outcome ∧
      report = svc.conclude (calls i).verdict (calls i).operation outcome := by
  have hphase := hw.phases i
  unfold report? at h
  split at h
  case h_1 outcome hi =>
    rw [hi] at hphase
    exact ⟨outcome, hphase, (Option.some.inj h).symm⟩
  case h_2 report' hi =>
    rw [hi] at hphase
    exact Option.some.inj h ▸ hphase
  case h_3 => cases h

/-- A cancellation whose report has a publication in it has succeeded. -/
theorem Sound.successfulCancel_of_attempt (hw : w.Sound svc calls first) {i : ι}
    {reference : String} {reason : Option CancelReason}
    (hop : (calls i).operation = .cancel reference reason) {report : Report}
    (hreport : w.report? svc calls i = some report) (hattempt : report.attempt.isSome) :
    ∃ e, (i, e) ∈ w.log ∧ Service.SuccessfulCancel calls reference (i, e) := by
  obtain ⟨outcome, hcame, rfl⟩ := hw.of_report?_eq_some hreport
  obtain ⟨attempt, hattempt⟩ := Option.isSome_iff_exists.1 hattempt
  obtain ⟨e, p, rfl, hevent⟩ := Service.event_of_attempt hattempt
  exact ⟨e, hcame, ⟨reason, hop⟩, hw.trace.result_of_event hcame hevent⟩

variable [DecidableEq ι]

/-- A step changes nothing but the phase of its request, or is the transaction of the request: then
the store and the log are what the whole request, made on the store at once, would make of them. -/
theorem Sound.step_cases (hw : w.Sound svc calls first) (hfirst : first.Keyed svc.codec) (i : ι) :
    (∃ p, w.step svc calls i = w.advance i p ∧
      p.Sound svc (calls i) first.catalog w.log i) ∨
    ∃ e s', i ∉ w.transacted ∧
      svc.perform (calls i).readings (calls i).operation w.store = (.ok e, s') ∧
      w.step svc calls i =
        ⟨s', Function.update w.phase i (.performed (.ok e)), w.log ++ [(i, e)]⟩ := by
  have hphase := hw.phases i
  cases hi : w.phase i with
  | waiting =>
    rw [hi] at hphase
    refine .inl ?_
    cases hcheck : (calls i).operation.check with
    | error reason =>
      exact ⟨.performed (.error reason), by simp only [step, hi, hcheck], hphase,
        Service.prepare_of_check_eq_error hcheck⟩
    | ok u =>
      exact ⟨.checking (calls i).operation.support, by simp only [step, hi, hcheck], hphase,
        Service.prepare_of_check_eq_ok hcheck⟩
  | checking needs =>
    rw [hi] at hphase
    obtain ⟨hnew, hprepare⟩ := hphase
    refine .inl ?_
    cases needs with
    | nil =>
      exact ⟨.timed (svc.transaction (calls i).readings.now (calls i).operation),
        by simp only [step, hi], hnew, hprepare⟩
    | cons need needs =>
      -- Others have not touched the catalog since the first store.
      have hlookup : w.store.supportType? need.type =
          SupportType.named? need.type first.catalog := by
        rw [Store.supportType?, hw.catalog_eq hfirst]
      rw [checkSupport] at hprepare
      by_cases hnone : (SupportType.named? need.type first.catalog).isNone
      · rw [if_pos hnone] at hprepare
        exact ⟨.performed (.error (.unknownSupport need.type)),
          by simp only [step, hi, hlookup, if_pos hnone], hnew, hprepare⟩
      · rw [if_neg hnone] at hprepare
        exact ⟨.checking needs, by simp only [step, hi, hlookup, if_neg hnone], hnew, hprepare⟩
  | timed t =>
    rw [hi] at hphase
    obtain ⟨hnew, hprepare⟩ := hphase
    exact .inl ⟨.ready t (calls i).readings.write, by simp only [step, hi], hnew, hprepare, rfl⟩
  | ready t write =>
    rw [hi] at hphase
    obtain ⟨hnew, hprepare, rfl⟩ := hphase
    rw [← hw.catalog_eq hfirst] at hprepare
    exact .inr ⟨_, _, hnew, Service.perform_of_prepare_eq_ok hprepare, by simp only [step, hi]⟩
  | performed outcome =>
    rw [hi] at hphase
    exact .inl ⟨.finished (svc.conclude (calls i).verdict (calls i).operation outcome),
      by simp only [step, hi], outcome, hphase, rfl⟩
  | finished report =>
    refine .inl ⟨w.phase i, ?_, hphase⟩
    simp only [step, hi, advance]
    rw [← hi, Function.update_eq_self]

/-! ### Schedules -/

theorem Sound.advance (hw : w.Sound svc calls first) {i : ι} {p : Phase}
    (hp : p.Sound svc (calls i) first.catalog w.log i) :
    (w.advance i p).Sound svc calls first where
  trace := hw.trace
  nodup := hw.nodup
  phases j := by
    by_cases hj : j = i
    · subst hj
      simp only [World.advance, Function.update_self]
      exact hp
    · simp only [World.advance, Function.update_of_ne hj]
      exact hw.phases j

theorem Sound.transact (hw : w.Sound svc calls first) {i : ι} {e : Effect} {s' : Store}
    (hnew : i ∉ w.transacted)
    (hperform : svc.perform (calls i).readings (calls i).operation w.store = (.ok e, s')) :
    Sound svc calls first
      ⟨s', Function.update w.phase i (.performed (.ok e)), w.log ++ [(i, e)]⟩ where
  trace := hw.trace.append (.single hperform)
  nodup := by
    rw [transacted, List.map_append]
    refine List.nodup_append.2 ⟨hw.nodup, List.nodup_singleton i, ?_⟩
    rintro j hj k hk rfl
    obtain rfl : j = i := List.mem_singleton.1 hk
    exact hnew hj
  phases j := by
    by_cases hj : j = i
    · subst hj
      simp only [Function.update_self]
      exact List.mem_append_right _ (List.mem_singleton_self _)
    · simp only [Function.update_of_ne hj]
      exact (hw.phases j).concat hj

theorem Sound.step (hw : w.Sound svc calls first) (hfirst : first.Keyed svc.codec) (i : ι) :
    (w.step svc calls i).Sound svc calls first := by
  rcases hw.step_cases hfirst i with ⟨p, hstep, hp⟩ | ⟨e, s', hnew, hperform, hstep⟩
  · exact hstep ▸ hw.advance hp
  · exact hstep ▸ hw.transact hnew hperform

theorem Sound.run (hw : w.Sound svc calls first) (hfirst : first.Keyed svc.codec)
    (schedule : List ι) : (w.run svc calls schedule).Sound svc calls first := by
  induction schedule generalizing w with
  | nil => exact hw
  | cons i schedule ih => exact ih (hw.step hfirst i)

/-- What runs during a schedule is a trace from the store before to the store after. -/
theorem Sound.exists_trace_run (hw : w.Sound svc calls first) (hfirst : first.Keyed svc.codec)
    (schedule : List ι) :
    ∃ more, (w.run svc calls schedule).log = w.log ++ more ∧
      svc.Trace calls more w.store (w.run svc calls schedule).store := by
  induction schedule generalizing w with
  | nil => exact ⟨[], (List.append_nil _).symm, .nil _⟩
  | cons i schedule ih =>
    have hrun : w.run svc calls (i :: schedule) = (w.step svc calls i).run svc calls schedule := rfl
    obtain ⟨more, hlog, htrace⟩ := ih (hw.step hfirst i)
    rw [hrun, hlog]
    rcases hw.step_cases hfirst i with ⟨p, hstep, -⟩ | ⟨e, s', -, hperform, hstep⟩
    · rw [hstep] at htrace ⊢
      exact ⟨more, rfl, htrace⟩
    · rw [hstep] at htrace ⊢
      exact ⟨(i, e) :: more, (List.append_cons ..).symm, .cons hperform htrace⟩

/-! ### The serial run -/

/-- The requests made one after the other, in the order of their transactions, answer the same and
leave the same store behind. -/
theorem Sound.serve_eq (hw : w.Sound svc calls first) (hfirst : first.Keyed svc.codec)
    {order : List ι} {report : ι → Report}
    (horder : order.filter (fun i => decide (i ∈ w.transacted)) = w.transacted)
    (hreport : ∀ i ∈ order, w.report? svc calls i = some (report i)) :
    svc.serve (order.map calls) first = (order.map report, w.store) := by
  refine Service.serve_of_trace hw.trace hfirst horder ?_ ?_
  · rintro ⟨i, e⟩ hp
    have hmem : i ∈ w.transacted := List.mem_map_of_mem hp
    have hmem_order : i ∈ order := (List.mem_filter.1 (horder.symm ▸ hmem)).1
    obtain ⟨outcome, hcame, heq⟩ := hw.of_report?_eq_some (hreport i hmem_order)
    cases outcome with
    | error reason => exact absurd hmem hcame.1
    | ok e' =>
      obtain ⟨-, rfl⟩ := Prod.mk.inj (hw.eq_of_fst_eq hcame hp rfl)
      exact heq
  · intro i hi hran
    have hnew : i ∉ w.transacted := of_decide_eq_false hran
    obtain ⟨outcome, hcame, heq⟩ := hw.of_report?_eq_some (hreport i hi)
    cases outcome with
    | error reason => exact ⟨reason, hcame.2, heq⟩
    | ok e => exact absurd (List.mem_map_of_mem hcame) hnew

/-! ### The headline -/

/-- Requests at work at the same time, on a store that earlier calls have led to, in two worlds of a
schedule, one later than the other.

The requests whose reports are settled come out as if they had been made one after the other, in the
order of their transactions; where the refused ones stand in that order makes no difference. Each
request has one transaction at most.

Of the cancellations of one visit at most one succeeds, and at most one makes a publication. The
notes of a visit grow by one note on the outcome at most. What a cancellation answers is what is
stored from then on, until the visit is deleted. -/
theorem interleaving_serializable (svc : Service) (calls : ι → Call) (earlier : List Call)
    (before after : List ι) :
    let first := svc.after earlier .empty
    let w : World ι := (start first).run svc calls before
    let w' := w.run svc calls after
    (∀ (order : List ι) (report : ι → Report),
      order.filter (fun i => decide (i ∈ w.transacted)) = w.transacted →
      (∀ i ∈ order, w.report? svc calls i = some (report i)) →
      svc.serve (order.map calls) first = (order.map report, w.store)) ∧
    w.transacted.Nodup ∧
    (∀ reference, ∀ p ∈ w.log, ∀ q ∈ w.log, Service.SuccessfulCancel calls reference p →
      Service.SuccessfulCancel calls reference q → p = q) ∧
    (∀ reference i j reason reason' report report',
      (calls i).operation = .cancel reference reason →
      (calls j).operation = .cancel reference reason' →
      w.report? svc calls i = some report → w.report? svc calls j = some report' →
      report.attempt.isSome → report'.attempt.isSome → i = j) ∧
    (∀ r ∈ w.store.rows, ∀ r' ∈ w'.store.rows, r'.reference = r.reference →
      ∃ d d' : Details, r.columns = d.columns ∧ r'.columns = d'.columns ∧
        (d'.notes = d.notes ∨ ∃ text, d'.notes = d.notes ++ [⟨.visitOutcomes, text⟩])) ∧
    ∀ reference, ∀ p ∈ w.log, ∀ reason a, (calls p.1).operation = .cancel reference reason →
      p.2.result = .ok a → ∃ v, a = .visit v ∧ v.details.status = .cancelled ∧
        ∀ r ∈ w'.store.rows, r.reference = reference → r.visit = .ok v := by
  intro first w w'
  have hfirst : first.Keyed svc.codec :=
    Service.keyed_after (Store.keyed_empty svc.codec) earlier
  have hw : w.Sound svc calls first := (sound_start svc calls first).run hfirst before
  have hw' : w'.Sound svc calls first := hw.run hfirst after
  have hs : w.store.Keyed svc.codec := hw.trace.keyed hfirst
  obtain ⟨more, hlog, htrace⟩ := hw.exists_trace_run hfirst after
  refine ⟨fun order report => hw.serve_eq hfirst, hw.nodup,
    fun reference p hp q hq => hw.trace.eq_of_successfulCancel hfirst hp hq, ?_, ?_, ?_⟩
  · intro reference i j reason reason' report report' hi hj hreport hreport' hattempt hattempt'
    obtain ⟨e, he, hcancel⟩ := hw.successfulCancel_of_attempt hi hreport hattempt
    obtain ⟨e', he', hcancel'⟩ := hw.successfulCancel_of_attempt hj hreport' hattempt'
    exact congrArg Prod.fst (hw.trace.eq_of_successfulCancel hfirst he he' hcancel hcancel')
  · intro r hr r' hr' href
    obtain ⟨d, hd⟩ := hs.holds_details r hr
    obtain ⟨d', hd', hfollow⟩ :=
      Service.notesFollow_after hs hr hd _ r' (htrace.after_eq.symm ▸ hr') href
    exact ⟨d, d', hd, hd', hfollow.notes_eq⟩
  · intro reference p hp reason a hop ha
    have hmem : p ∈ w'.log := hlog ▸ List.mem_append_left more hp
    exact hw'.trace.visit_of_cancel hfirst hmem hop ha

/-- Two cancellations of one visit at the same time: the second to come to its transaction is
refused, as it is if they are made one after the other. -/
theorem interleaving_serializable_two_cancels :
    let svc : Service := ⟨.standard, ⟨true, "domainevents", default⟩⟩
    let starts : LocalTime := ⟨⟨⟨1970, 1, 2, by decide⟩, default⟩, by decide⟩
    let ends : LocalTime := ⟨⟨⟨1970, 1, 3, by decide⟩, default⟩, by decide⟩
    let booking : CreateRequest := { (default : CreateRequest) with starts, ends }
    let reference := Codec.standard.encode 1
    let calls : Bool → Call := fun _ =>
      ⟨default, .accepted "1", .cancel reference (some ⟨.notRecorded, some "ill"⟩)⟩
    let first := svc.after [⟨default, .accepted "0", .create booking⟩] .empty
    let w := (start first).run svc calls
      [true, false, true, false, false, false, true, true, false, true]
    ∃ report : Bool → Report, w.transacted = [false, true] ∧
      svc.serve ([false, true].map calls) first = ([false, true].map report, w.store) ∧
      (report false).attempt.isSome ∧
      (report true).result = .error (.refused (.alreadyCancelled reference)) := by
  intro svc starts ends booking reference calls first w
  let report : Bool → Report := fun i => (w.report? svc calls i).getD default
  have hran : w.transacted = [false, true] := by decide +kernel
  have hreport : ∀ i, w.report? svc calls i = some (report i) := by
    have hsome : ∀ i, (w.report? svc calls i).isSome := by decide +kernel
    intro i
    obtain ⟨r, hr⟩ := Option.isSome_iff_exists.1 (hsome i)
    simp only [report, hr, Option.getD_some]
  refine ⟨report, hran, ?_, by decide +kernel, by decide +kernel⟩
  exact (interleaving_serializable svc calls [⟨default, .accepted "0", .create booking⟩]
    [true, false, true, false, false, false, true, true, false, true] []).1 [false, true] report
    (by decide +kernel) fun i _ => hreport i

end World

end VisitBooking
