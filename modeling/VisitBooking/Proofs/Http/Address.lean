import VisitBooking.Proofs.Http.Encoding
import VisitBooking.Proofs.Http.Refinement
import VisitBooking.Proofs.Store.Command

/-!
# References as addresses

A client that books or imports a visit is answered with its reference, and asks for the visit later
under `/visits/` and the reference, percent-encoded. Whatever the symbols and the delimiter of the
codec are, the segment stands for the reference again. From then on the visit is found under it
until it is deleted: revisions leave identity, reference and creation alone.

There is one reference whose address is not that of the visit. Where the symbols of the codec spell
`delete`, the path is that of the deletion of several visits, which is not asked by GET. The slot of
the same visit and its cancellation are reached all the same.

## Main definitions

* `referenceIn`: the reference that a client reads in the answer to a booking.
* `Issues`: a booking or an import that is answered with a reference.

## Main results

* `Service.exists_found_next`: a visit is found until it is deleted.
* `Issues.exists_found`: a reference that is answered finds a visit.
* `response_of_get`: what GET answers at an address.
* `address_of_issued`: the headline.
-/

namespace VisitBooking

open Calendar Reference

namespace Service

variable {svc : Service} {s : Store} {c : Call} {reference : String}

/-- A visit that is found under a reference is found there after a call that does not delete it,
with its identity and its creation. -/
theorem exists_found_next (wf : s.WellFormed) {v : Visit}
    (hv : s.findByReference reference = .ok (some v)) (hdel : reference ∉ c.operation.deletes)
    (hclock : c.readings.write.HasPlainYear) :
    ∃ w, (svc.next c s).findByReference reference = .ok (some w) ∧ w.id = v.id ∧
      w.created = v.created := by
  have hstep := svc.step_next wf c
  have wf' : (svc.next c s).WellFormed := hstep.wellFormed wf
  obtain ⟨⟨r, hr, hread⟩, rfl⟩ := wf.findByReference_eq_ok_some_iff.1 hv
  have href : v.reference = r.reference := wf.visit_reference hr hread
  rcases hstep.survives wf hr (href ▸ hdel) with hkept | ⟨r', hr', d₀, d', hd₀, -, rfl⟩
  · exact ⟨v, wf'.findByReference_eq_ok_some_iff.2 ⟨⟨r, hkept, hread⟩, rfl⟩, rfl, rfl⟩
  · have hrevised := Row.visit_write hread hd₀ d' hclock
    exact ⟨_, wf'.findByReference_eq_ok_some_iff.2 ⟨⟨_, hr', hrevised⟩, rfl⟩, rfl, rfl⟩

/-- An insert that succeeds answers with the visit of the row that it puts in, or with its
reference. -/
theorem exists_found_of_insertion (wf : s.WellFormed) (hop : c.operation.insertion?.isSome)
    {a : Answer} (h : (svc.report c s).result = .ok a) :
    ∃ v : Visit, (svc.next c s).findByReference v.reference = .ok (some v) ∧
      (a = .visit v ∨ a = .reference v.reference) := by
  have hcommon : commonAnswer (svc.perform c.readings c.operation s).1 = .ok a := by
    cases exists_responds wf c with
    | told _ hresult => exact hresult.symm.trans h
    | unpublished _ _ _ _ hresult => cases hresult.symm.trans h
  have hperformed : svc.Performed c.readings c.operation s
      (svc.perform c.readings c.operation s).1 (svc.next c s) :=
    svc.performed wf c.readings c.operation
  generalize (svc.perform c.readings c.operation s).1 = outcome at hcommon hperformed
  generalize svc.next c s = s' at hperformed ⊢
  cases hperformed with
  | refused | missing | unreadable | declined | notAdmitted | notValid => cases hcommon
  | committed r _ hcommits =>
    cases hv : r.visit with
    | error fault =>
      rw [hv] at hcommon
      cases hcommon
    | ok v =>
      rw [hv] at hcommon
      refine ⟨v, hcommits.findByReference_eq wf hv, ?_⟩
      obtain rfl := Except.ok.inj hcommon
      cases c.operation <;> first | exact .inl rfl | exact .inr rfl
  | answered _ _ hinsertion =>
    rw [hinsertion] at hop
    cases hop

end Service

namespace Http

open Json Text

variable {svc : Service} {x : Exchange} {s : Store} {reference : String}

/-! ### Exchanges -/

/-- An exchange does to the store what a call does, or nothing. -/
theorem next_cases (svc : Service) (x : Exchange) (s : Store) :
    (∃ op, x.request.Asks op ∧ next svc x s = svc.next ⟨x.readings, x.verdict, op⟩ s) ∨
      next svc x s = s := by
  by_cases h : ∃ op, x.request.Asks op
  · obtain ⟨op, hop⟩ := h
    exact .inl ⟨op, hop, next_of_asks hop⟩
  · exact .inr (next_of_not_asks (not_exists.1 h))

theorem keyed_next (hs : s.Keyed svc.codec) (x : Exchange) : (next svc x s).Keyed svc.codec := by
  rcases next_cases svc x s with ⟨op, -, hnext⟩ | hnext
  · exact hnext ▸ Service.keyed_next hs _
  · rwa [hnext]

theorem keyed_after (hs : s.Keyed svc.codec) (xs : List Exchange) :
    (after svc xs s).Keyed svc.codec := by
  induction xs generalizing s with
  | nil => exact hs
  | cons x xs ih => exact ih (keyed_next hs x)

/-- A visit is found after any exchanges that do not delete it. -/
theorem exists_found_after (hs : s.Keyed svc.codec) {v : Visit}
    (hv : s.findByReference reference = .ok (some v)) {xs : List Exchange}
    (hkept : ∀ x ∈ xs, ∀ op, x.request.Asks op → reference ∉ op.deletes)
    (hclock : ∀ x ∈ xs, x.readings.write.HasPlainYear) :
    ∃ w, (after svc xs s).findByReference reference = .ok (some w) ∧ w.id = v.id ∧
      w.created = v.created := by
  induction xs generalizing s v with
  | nil => exact ⟨v, hv, rfl, rfl⟩
  | cons x xs ih =>
    obtain ⟨hkept, hkept'⟩ := List.forall_mem_cons.1 hkept
    obtain ⟨hclock, hclock'⟩ := List.forall_mem_cons.1 hclock
    have hnext : ∃ w, (next svc x s).findByReference reference = .ok (some w) ∧ w.id = v.id ∧
        w.created = v.created := by
      rcases next_cases svc x s with ⟨op, hop, hnext⟩ | hnext
      · rw [hnext]
        exact Service.exists_found_next hs.toWellFormed hv (hkept op hop) hclock
      · exact ⟨v, by rwa [hnext], rfl, rfl⟩
    obtain ⟨u, hu, huid, hucreated⟩ := hnext
    obtain ⟨w, hw, hwid, hwcreated⟩ := ih (keyed_next hs x) hu hkept' hclock'
    exact ⟨w, hw, hwid.trans huid, hwcreated.trans hucreated⟩

/-! ### References that are answered -/

/-- The member `reference` of an object. -/
def referenceIn : Decoder String
  | .object members _ =>
    match Record.memberNamed members "reference" with
    | some t => decodeText t
    | none => .error .mismatch
  | t => .error t.otherwise

theorem run_referenceIn (v : Visit) : referenceIn.run (.ofText v.toJson.print) = .ok v.reference :=
  (Decoder.run_print _ _).trans rfl

/-- A visit is booked or imported, and its reference is answered. -/
inductive Issues (svc : Service) (x : Exchange) (s : Store) (reference : String) : Prop
  /-- The answer is the visit, as JSON. -/
  | booking (hmethod : x.request.method = "POST") (hpath : x.request.path = "/visits".toList)
      (hstatus : (reply svc x s).response.status = 201)
      (hbody : referenceIn.run (.ofText (reply svc x s).response.body) = .ok reference)
  /-- The answer is the reference, as it is. -/
  | migration (hmethod : x.request.method = "POST")
      (hpath : x.request.path = "/migrate-visits".toList)
      (hstatus : (reply svc x s).response.status = 201)
      (hbody : (reply svc x s).response.body = reference)

/-- What is asked for with nothing but a body is told by the body. -/
theorem asks_of_body {r : Request} {resource : Resource} {op : Operation} {α : Type}
    {d : Decoder α} {f : α → Operation} (hnames : r.Names resource)
    (hbody : r.operationOn resource = (Request.readBody d r).map f) (h : r.Asks op) :
    ∃ q, op = f q := by
  have hop := h.operation_eq
  rw [hnames.operation_eq, hbody] at hop
  cases hread : Request.readBody d r with
  | ok q =>
    rw [hread] at hop
    exact ⟨q, (Except.ok.inj hop).symm⟩
  | error rejection =>
    rw [hread] at hop
    cases hop

theorem Issues.of_create {q : CreateRequest} (h : x.request.Asks (.create q)) {v : Visit}
    (hresult : (svc.report ⟨x.readings, x.verdict, .create q⟩ s).result = .ok (.visit v)) :
    Issues svc x s v.reference := by
  cases h with
  | create _ hmethod hnames hbody =>
    have hresponse : (reply svc x s).response = .json 201 v.toJson := by
      rw [reply, serve_of_asks (.create q hmethod hnames hbody), hmethod, Reply.ofReport, hresult]
      rfl
    refine .booking hmethod hnames.path ?_ ?_
    · rw [hresponse]
      rfl
    · rw [hresponse]
      exact run_referenceIn v

/-- What is answered as created has been asked for and has succeeded. -/
theorem exists_result_of_created (wf : s.WellFormed) {resource : Resource}
    (hnames : x.request.Names resource) (hmethod : x.request.method = "POST")
    (hpost : "POST" ∈ resource.methods) (hstatus : (reply svc x s).response.status = 201) :
    ∃ op a, x.request.Asks op ∧ (svc.report ⟨x.readings, x.verdict, op⟩ s).result = .ok a ∧
      (reply svc x s).response.Carries a := by
  by_cases h : ∃ op, x.request.Asks op
  · obtain ⟨op, hop⟩ := h
    have htells : (reply svc x s).Tells x.request op
        (svc.report ⟨x.readings, x.verdict, op⟩ s) := reply_tells wf hop
    cases hresult : (svc.report ⟨x.readings, x.verdict, op⟩ s).result with
    | error f =>
      have hrendered := (htells.failed f hresult).1
      rw [hstatus] at hrendered
      cases hrendered
    | ok a =>
      have hhead : x.request.method ≠ "HEAD" := by
        rw [hmethod]
        decide
      exact ⟨op, a, hop, hresult, (htells.succeeded a hresult).2.2 hhead⟩
  · have hrejects : (reply svc x s).Rejects x.request := reply_rejects (not_exists.1 h)
    have hbad := hrejects.notRead resource hnames (hmethod ▸ hpost)
    rw [hstatus] at hbad
    cases hbad

/-- Where a body is answered as created, the answer is the visit that is then found, or its
reference. -/
theorem exists_found_of_created (wf : s.WellFormed) {resource : Resource}
    (hnames : x.request.Names resource) (hmethod : x.request.method = "POST")
    (hpost : "POST" ∈ resource.methods) {α : Type} {d : Decoder α} {f : α → Operation}
    (hbody : x.request.operationOn resource = (Request.readBody d x.request).map f)
    (hinsertion : ∀ q, (f q).insertion?.isSome) (hstatus : (reply svc x s).response.status = 201) :
    ∃ q a, ∃ v : Visit, (f q).Yields a ∧ (reply svc x s).response.Carries a ∧
      (next svc x s).findByReference v.reference = .ok (some v) ∧
      (a = .visit v ∨ a = .reference v.reference) := by
  obtain ⟨op, a, hop, hresult, hcarries⟩ :=
    exists_result_of_created wf hnames hmethod hpost hstatus
  obtain ⟨q, rfl⟩ := asks_of_body hnames hbody hop
  obtain ⟨v, hfound, ha⟩ := Service.exists_found_of_insertion wf (hinsertion q) hresult
  exact ⟨q, a, v, Service.yields_of_report hresult, hcarries, next_of_asks hop ▸ hfound, ha⟩

/-- A reference that is answered finds a visit right away. -/
theorem Issues.exists_found (wf : s.WellFormed) (h : Issues svc x s reference) :
    ∃ v, (next svc x s).findByReference reference = .ok (some v) := by
  cases h with
  | booking hmethod hpath hstatus hbody =>
    have hnames : x.request.Names .visits :=
      Request.names_iff.2 ⟨hpath, .of_no_reference rfl⟩
    have hread : x.request.operationOn .visits =
        (Request.readBody CreateRequest.decode x.request).map .create := by
      simp [Request.operationOn, hmethod]
    obtain ⟨_, _, v, hyields, hcarries, hfound, rfl | rfl⟩ :=
      exists_found_of_created wf hnames hmethod (by decide) hread (fun _ => rfl) hstatus
    · cases hcarries with
      | visit _ hjson =>
        rw [hjson.reads referenceIn] at hbody
        obtain rfl : v.reference = reference := Except.ok.inj hbody
        exact ⟨v, hfound⟩
    · cases hyields
  | migration hmethod hpath hstatus hbody =>
    have hnames : x.request.Names .migration :=
      Request.names_iff.2 ⟨hpath, .of_no_reference rfl⟩
    have hread : x.request.operationOn .migration =
        (Request.readBody MigrateRequest.decode x.request).map .migrate := by
      simp [Request.operationOn, hmethod]
    obtain ⟨_, _, v, hyields, hcarries, hfound, rfl | rfl⟩ :=
      exists_found_of_created wf hnames hmethod (by decide) hread (fun _ => rfl) hstatus
    · cases hyields
    · cases hcarries with
      | reference _ _ hanswer =>
        obtain rfl : v.reference = reference := hanswer.symm.trans hbody
        exact ⟨v, hfound⟩

/-! ### Asking at an address -/

theorem path_of_target {r : Request} {path : List Char} (htarget : r.target.toList = '/' :: path)
    (hquery : '?' ∉ path) (hfragment : '#' ∉ path) : r.path = '/' :: path := by
  have hfragment' : '#' ∉ '/' :: path := List.not_mem_cons_of_ne_of_not_mem (by decide) hfragment
  have hquery' : '?' ∉ '/' :: path := List.not_mem_cons_of_ne_of_not_mem (by decide) hquery
  have hwhole : r.HasTarget ('/' :: path) [] :=
    .intro [] _ none none .nil (by simp [htarget, opened]) rfl hquery'
      (by simpa [opened] using hfragment')
  exact (Request.hasTarget_iff.1 hwhole).1

/-- The path of the address of a visit. -/
theorem path_of_address {r : Request}
    (htarget : r.target = "/visits/" ++ String.ofList (percentEncoded reference)) :
    r.path = "/visits/".toList ++ percentEncoded reference := by
  have hfront : "/visits/".toList = '/' :: "visits/".toList := by decide
  have hchars : r.target.toList = '/' :: ("visits/".toList ++ percentEncoded reference) := by
    have hsegment : (String.ofList (percentEncoded reference)).toList = percentEncoded reference :=
      String.toList_ofList
    rw [htarget, String.toList_append, hsegment, hfront, List.cons_append]
  have hnot : ∀ c, c = '?' ∨ c = '#' → c ∉ "visits/".toList ++ percentEncoded reference := by
    intro c hc
    rw [List.mem_append, not_or]
    refine ⟨?_, not_mem_percentEncoded (.inr hc) reference⟩
    rcases hc with rfl | rfl <;> decide
  rw [hfront, List.cons_append]
  exact path_of_target hchars (hnot '?' (.inl rfl)) (hnot '#' (.inr rfl))

theorem report_get {readings : Readings} {verdict : Verdict} {v : Visit}
    (hv : s.findByReference reference = .ok (some v)) :
    svc.report ⟨readings, verdict, .get reference⟩ s = ⟨.ok (.visit v), none, []⟩ := by
  have hready : (Operation.get reference).Ready s.catalog := ⟨rfl, rfl⟩
  rw [Service.report_eq, Service.perform_of_ready hready]
  simp only [Service.transaction, Transaction.run, hv]
  rfl

/-- What GET answers under `/visits/` and a segment, if a visit is found under the reference that
the segment stands for. -/
theorem response_of_get {v : Visit} (hv : s.findByReference reference = .ok (some v))
    (hmethod : x.request.method = "GET") {segment : List Char}
    (hpath : x.request.path = "/visits/".toList ++ segment) (hslash : '/' ∉ segment)
    (hne : segment ≠ []) (htext : segmentText? segment = some reference) :
    (reply svc x s).response =
      if segment = "delete".toList then { status := 405, allowed := some ["POST"] }
      else .json 200 v.toJson := by
  split
  · rename_i hdelete
    have hnames : x.request.Names .deletion :=
      Request.names_iff.2 ⟨by rw [hpath, hdelete]; rfl, .of_no_reference rfl⟩
    have hop : x.request.operation = .error (.badMethod ["POST"]) := by
      rw [hnames.operation_eq]
      simp [Request.operationOn, hmethod, Resource.methods]
    rw [reply, serve, hop, hmethod]
    rfl
  · rename_i hdelete
    have hproper : (Resource.visit segment).Proper := by
      refine ⟨?_, ?_⟩
      · rintro _ ⟨⟩
        exact hslash
      · rintro _ ⟨⟩
        exact ⟨hne, hdelete⟩
    have hnames : x.request.Names (.visit segment) :=
      Request.names_iff.2 ⟨by rw [hpath]; simp [Resource.path, Resource.segments], hproper⟩
    have hasks : x.request.Asks (.get reference) :=
      .get segment reference (.inl hmethod) hnames (segmentText?_eq_some_iff.1 htext)
    rw [reply, serve_of_asks hasks, report_get hv, hmethod]
    rfl

theorem encode_ne_empty (c : Codec) (id : Nat) : c.encode id ≠ "" := by
  intro hempty
  have hsymbols := c.symbolsOf?_encode id
  rw [hempty] at hsymbols
  exact c.symbols_ne_nil id (Option.some.inj hsymbols).symm

/-- The one text that is put into a path as the name of an action. -/
theorem percentEncoded_eq_delete_iff {text : String} :
    percentEncoded text = "delete".toList ↔ text = "delete" := by
  have hdelete : percentEncoded "delete" = "delete".toList := by decide +kernel
  rw [← hdelete, percentEncoded_injective.eq_iff]

/-! ### The headline -/

/-- **The reference is the address of the visit, unless it is `delete`.** Whatever the codec is and
whatever came before: if a booking or an import is answered with a reference, and none of the
requests that come later deletes the visit, then GET under `/visits/` and the percent-encoded
reference is answered with the status 200 and the visit as it is then stored, with the identity and
the creation that it had from the beginning. If the reference is `delete`, the visit is stored all
the same, and the answer is that the resource is not asked by this method. The clock has to show a
year of four digits to the later requests, for a later instant is not read back. -/
theorem address_of_issued (svc : Service) (earlier later : List Exchange) (x get : Exchange)
    (reference : String) (hissued : Issues svc x (after svc earlier .empty) reference)
    (hkept : ∀ y ∈ later, ∀ op, y.request.Asks op → reference ∉ op.deletes)
    (hclock : ∀ y ∈ later, y.readings.write.HasPlainYear)
    (hmethod : get.request.method = "GET")
    (htarget : get.request.target = "/visits/" ++ String.ofList (percentEncoded reference)) :
    let issued := next svc x (after svc earlier .empty)
    let s := after svc later issued
    ∃ v₀ v : Visit, issued.findByReference reference = .ok (some v₀) ∧
      s.findByReference reference = .ok (some v) ∧ v.reference = reference ∧ v.id = v₀.id ∧
      v.created = v₀.created ∧
      (reply svc get s).response =
        if reference = "delete" then { status := 405, allowed := some ["POST"] }
        else .json 200 v.toJson := by
  intro issued s
  have hearlier : (after svc earlier .empty).Keyed svc.codec :=
    keyed_after (Store.keyed_empty svc.codec) earlier
  have hs₀ : issued.Keyed svc.codec := keyed_next hearlier x
  have hs : s.Keyed svc.codec := keyed_after hs₀ later
  obtain ⟨v₀, hv₀⟩ := hissued.exists_found hearlier.toWellFormed
  obtain ⟨v, hv, hid, hcreated⟩ := exists_found_after hs₀ hv₀ hkept hclock
  obtain ⟨⟨r, hr, hread⟩, href⟩ := hs.findByReference_eq_ok_some_iff.1 hv
  -- The segment is not empty, since the reference is one that the codec makes.
  have hne : percentEncoded reference ≠ [] := by
    obtain ⟨n, -, -, hencode⟩ := hs.reference_eq r hr
    have hmade : reference = svc.codec.encode n :=
      href.symm.trans ((hs.visit_reference hr hread).trans hencode)
    have hempty : percentEncoded "" = [] := by decide +kernel
    rw [hmade, ← hempty, percentEncoded_injective.ne_iff]
    exact encode_ne_empty svc.codec n
  have hresponse : (reply svc get s).response =
      if percentEncoded reference = "delete".toList then { status := 405, allowed := some ["POST"] }
      else .json 200 v.toJson :=
    response_of_get hv hmethod (path_of_address htarget)
      (not_mem_percentEncoded (.inl rfl) reference) hne (segmentText?_percentEncoded reference)
  simp only [percentEncoded_eq_delete_iff] at hresponse
  exact ⟨v₀, v, hv₀, hv, href, hid, hcreated, hresponse⟩

/-- A booking, with the fields in a list. -/
def bookingRequest : Request where
  method := "POST"
  target := "/visits"
  contentType := some "application/json"
  body := Utf8.bytes ("[\"\",\"\",\"\",\"SOCIAL\",\"BOOKED\",\"OPEN\"," ++
    "\"1970-01-01T00:00:00\",\"1970-01-02T00:00:00\",null]")

/-- What it asks for. -/
def bookingOfDay : CreateRequest :=
  { (default : CreateRequest) with
    status := .booked
    ends := ⟨⟨⟨1970, 1, 2, by decide⟩, default⟩, by decide⟩ }

theorem asks_bookingRequest : bookingRequest.Asks (.create bookingOfDay) :=
  Request.operation_eq_ok_iff.1 (by decide +kernel)

/-- A visit is booked and, after another booking, found at its address. -/
theorem address_of_issued_booking :
    let svc : Service := default
    let x : Exchange := ⟨default, .accepted "", bookingRequest⟩
    let get : Exchange := ⟨default, .refused, ⟨"GET", "/visits/5e-f9-r7-rb", none, []⟩⟩
    let s := after svc [x] (next svc x (after svc [] .empty))
    Issues svc x (after svc [] .empty) "5e-f9-r7-rb" ∧
      (∀ y ∈ [x], ∀ op, y.request.Asks op → "5e-f9-r7-rb" ∉ op.deletes) ∧
      (∀ y ∈ [x], y.readings.write.HasPlainYear) ∧
      get.request.target = "/visits/" ++ String.ofList (percentEncoded "5e-f9-r7-rb") ∧
      ∃ v : Visit, v.reference = "5e-f9-r7-rb" ∧
        (reply svc get s).response = .json 200 v.toJson := by
  intro svc x get s
  have hresult : (svc.report ⟨x.readings, x.verdict, .create bookingOfDay⟩ .empty).result =
      .ok (.visit ⟨1, "5e-f9-r7-rb", bookingOfDay.details, default, default⟩) := by
    decide +kernel
  have hissued : Issues svc x (after svc [] .empty) "5e-f9-r7-rb" :=
    .of_create asks_bookingRequest hresult
  have hkept : ∀ y ∈ [x], ∀ op, y.request.Asks op → "5e-f9-r7-rb" ∉ op.deletes := by
    intro y hy op hop
    obtain rfl := List.mem_singleton.1 hy
    obtain rfl := Except.ok.inj (asks_bookingRequest.operation_eq.symm.trans hop.operation_eq)
    exact List.not_mem_nil
  have hclock : ∀ y ∈ [x], y.readings.write.HasPlainYear := by
    intro y hy
    obtain rfl := List.mem_singleton.1 hy
    decide +kernel
  have htarget : get.request.target =
      "/visits/" ++ String.ofList (percentEncoded "5e-f9-r7-rb") := by
    decide +kernel
  obtain ⟨v₀, v, -, -, href, -, -, hresponse⟩ :=
    address_of_issued svc [] [x] x get "5e-f9-r7-rb" hissued hkept hclock rfl htarget
  exact ⟨hissued, hkept, hclock, htarget, v, href, hresponse⟩

/-- Symbols with which the sixth identity is written as `delete`. -/
def deleteConfig : Config where
  alphabet := "atbcfglhdijke"
  minLength := 6
  chunkSize := 6
  delimiter := ""

/-- The codec of these symbols. -/
def deleteCodec : Codec where
  alphabet := "atbcfglhdijke".toList
  minLength := 6
  chunkSize := 6
  delimiter := none
  two_le_length := by decide
  nodup := by decide
  minLength_pos := by decide
  chunkSize_pos := by decide
  delimiter_not_mem := nofun
  fits := by decide

/-- Of six bookings the last one is answered with the reference `delete`, and GET does not find its
visit. -/
theorem no_visit_at_delete :
    let svc : Service := { (default : Service) with codec := deleteCodec }
    let x : Exchange := ⟨default, .accepted "", bookingRequest⟩
    let get : Exchange := ⟨default, .refused, ⟨"GET", "/visits/delete", none, []⟩⟩
    let s := after svc [x, x, x, x, x] .empty
    Scheme.ofConfig deleteConfig = .ok svc.codec ∧ Issues svc x s "delete" ∧
      get.request.target = "/visits/" ++ String.ofList (percentEncoded "delete") ∧
      (reply svc get (next svc x s)).response.status = 405 := by
  intro svc x get s
  let c : Call := ⟨default, .accepted "", .create bookingOfDay⟩
  have hcalls : Asked [x, x, x, x, x] [c, c, c, c, c] :=
    have hasks := asks_bookingRequest
    .asked _ hasks (.asked _ hasks (.asked _ hasks (.asked _ hasks (.asked _ hasks .nil))))
  have hs : s = svc.after [c, c, c, c, c] .empty := hcalls.after_eq .empty
  have hresult : (svc.report ⟨x.readings, x.verdict, .create bookingOfDay⟩ s).result =
      .ok (.visit ⟨6, "delete", bookingOfDay.details, default, default⟩) := by
    rw [hs]
    decide +kernel
  have hissued : Issues svc x s "delete" := .of_create asks_bookingRequest hresult
  exact ⟨by decide +kernel, hissued, by decide +kernel, by decide +kernel⟩

end Http

end VisitBooking
