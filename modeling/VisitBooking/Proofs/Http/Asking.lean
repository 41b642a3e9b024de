import VisitBooking.Proofs.Http.MediaType
import VisitBooking.Proofs.Http.Query
import VisitBooking.Proofs.Json.Grammar
import VisitBooking.Proofs.Request.Meaning

/-!
# What a request asks for

There are ten things to ask for, each by its method and its path, with a query or a body where it
needs one. `Request.Asks` has one constructor for each of them and says nothing about how a request
is taken apart, nor in which order its parts are looked at: a target, a media type, a segment, a
query and the text of a body each have a grammar of their own, and so has what the tree in a body
means. What a request is taken for is the one thing that it asks for, and a request that asks for
nothing is rejected because of its path, its method, or what it says.

## Main definitions

* `Request.Names`: the path names a resource.
* `Request.Says`, `Request.Seeks`: the body says something, the query asks for a filter.
* `Request.Asks`: what a request asks for.
* `Request.Outcome`: what comes of a request that names a resource.

## Main results

* `Request.names_iff`, `Request.Says.readBody_eq`, `Request.readFilter_eq_ok_iff`: the parts of a
  request are found.
* `Request.outcome_operationOn`: the four outcomes.
* `Request.operation_eq_ok_iff`: a request is taken for what it asks for.
-/

namespace VisitBooking.Http

open Json

/-- A piece of a body as the reader of JSON sees it: a character, or bytes that belong to none. -/
def pieceChars : Text.Utf8.Piece → List (Option Char)
  | .char c => [some c]
  | .stray n => List.replicate n none

namespace Request

/-- The path of the request is that of the resource. -/
structure Names (r : Request) (resource : Resource) : Prop where
  target : ∃ query, r.HasTarget resource.path query
  proper : resource.Proper

/-- The query of the request asks for the filter. -/
inductive Seeks (r : Request) (f : VisitFilter) : Prop
  | intro {path query : List Char} {pairs : List (String × String)}
      (htarget : r.HasTarget path query)
      (hquery : QuerySays query pairs) (hfilter : FilterSays pairs f)

/-- The body of the request is JSON of a bearable length, and the tree that is written in it means
`a`. -/
structure Says {α : Type} (r : Request) (Means : Tree → α → Prop) (a : α) : Prop where
  type : ∃ text, r.contentType = some text ∧ JsonType text
  length : r.body.length ≤ 2097152
  tree : ∃ ps t, Text.Utf8.Cut r.body ps ∧ Writes (ps.flatMap pieceChars) t ∧ Means t a

/-- What a request asks for, by its method, its path, and its query or its body. -/
inductive Asks (r : Request) : Operation → Prop
  | search (f : VisitFilter) (hmethod : r.method = "GET" ∨ r.method = "HEAD")
      (hpath : r.Names .visits) (hquery : r.Seeks f) : Asks r (.search f)
  | create (q : CreateRequest) (hmethod : r.method = "POST") (hpath : r.Names .visits)
      (hbody : r.Says CreateRequest.SaidBy q) : Asks r (.create q)
  | deleteMany (references : List String) (hmethod : r.method = "POST")
      (hpath : r.Names .deletion) (hbody : r.Says (ListOf (TextOf Eq)) references) :
      Asks r (.deleteMany references)
  | get (segment : List Char) (reference : String)
      (hmethod : r.method = "GET" ∨ r.method = "HEAD") (hpath : r.Names (.visit segment))
      (hreference : SegmentSays segment reference) : Asks r (.get reference)
  | update (segment : List Char) (reference : String) (q : UpdateRequest)
      (hmethod : r.method = "PUT") (hpath : r.Names (.visit segment))
      (hreference : SegmentSays segment reference) (hbody : r.Says UpdateRequest.SaidBy q) :
      Asks r (.update reference q)
  | delete (segment : List Char) (reference : String) (hmethod : r.method = "DELETE")
      (hpath : r.Names (.visit segment)) (hreference : SegmentSays segment reference) :
      Asks r (.delete reference)
  | change (segment : List Char) (reference : String) (q : SlotChange)
      (hmethod : r.method = "PUT") (hpath : r.Names (.slot segment))
      (hreference : SegmentSays segment reference) (hbody : r.Says SlotChange.SaidBy q) :
      Asks r (.change reference q)
  | cancel (segment : List Char) (reference : String) (reason : Option CancelReason)
      (hmethod : r.method = "PATCH") (hpath : r.Names (.cancellation segment))
      (hreference : SegmentSays segment reference) (hbody : r.Says CancelReason.SaidBy reason) :
      Asks r (.cancel reference reason)
  | migrate (q : MigrateRequest) (hmethod : r.method = "POST") (hpath : r.Names .migration)
      (hbody : r.Says MigrateRequest.SaidBy q) : Asks r (.migrate q)
  | supportTypes (hmethod : r.method = "GET" ∨ r.method = "HEAD") (hpath : r.Names .support) :
      Asks r .supportTypes

variable {r : Request} {resource : Resource} {op : Operation}

/-! ### The parts of a request -/

theorem names_iff : r.Names resource ↔ r.path = resource.path ∧ resource.Proper := by
  have hne : resource.path ≠ [] := by cases resource <;> simp [Resource.path, Resource.segments]
  constructor
  · rintro ⟨⟨_, htarget⟩, hproper⟩
    exact ⟨(hasTarget_iff.1 htarget).1, hproper⟩
  · rintro ⟨hpath, hproper⟩
    exact ⟨⟨_, hasTarget_iff.2 ⟨hpath, rfl, hne⟩⟩, hproper⟩

theorem Names.path (h : r.Names resource) : r.path = resource.path := (names_iff.1 h).1

theorem perByte_eq {s : List UInt8} {ps : List Text.Utf8.Piece} (h : Text.Utf8.Cut s ps) :
    Text.Utf8.perByte s = ps.flatMap pieceChars := by
  rw [Text.Utf8.perByte, Text.Utf8.pieces_eq_iff.2 h]
  exact congrArg (List.flatMap · ps) (funext fun p => by cases p <;> rfl)

/-- A body is read as what it says. -/
theorem readBody_eq_ok_iff {α : Type} {d : Decoder α} {Means : Tree → α → Prop}
    (h : d.Decides Means) {a : α} : readBody d r = .ok a ↔ r.Says Means a := by
  have hrun : d.run (.ofChars (Text.Utf8.perByte r.body)) = .ok a ↔
      ∃ ps t, Text.Utf8.Cut r.body ps ∧ Writes (ps.flatMap pieceChars) t ∧ Means t a := by
    rw [h.run]
    constructor
    · rintro ⟨t, hwrites, ha⟩
      have hcut := Text.Utf8.cut_pieces r.body
      exact ⟨_, t, hcut, perByte_eq hcut ▸ hwrites, ha⟩
    · rintro ⟨ps, t, hcut, hwrites, ha⟩
      exact ⟨t, perByte_eq hcut ▸ hwrites, ha⟩
  have htype : r.contentType.any isJsonType = true ↔
      ∃ text, r.contentType = some text ∧ JsonType text := by
    rw [Option.any_eq_true]
    exact exists_congr fun _ => and_congr_right' isJsonType_iff
  have hparts : readBody d r = .ok a ↔ r.contentType.any isJsonType = true ∧
      r.body.length ≤ bodyLimit ∧ d.run (.ofChars (Text.Utf8.perByte r.body)) = .ok a := by
    rw [readBody]
    cases r.contentType.any isJsonType with
    | false => exact iff_of_false nofun nofun
    | true =>
      by_cases hlength : bodyLimit < r.body.length
      · rw [if_neg nofun, if_pos hlength]
        exact iff_of_false nofun fun h => absurd h.2.1 (Nat.not_le.2 hlength)
      · rw [if_neg nofun, if_neg hlength]
        rcases d.run (.ofChars (Text.Utf8.perByte r.body)) with (_ | _ | _) | b
        all_goals simp [Nat.not_lt.1 hlength]
  rw [hparts, htype, hrun]
  exact ⟨fun ⟨htype, hlength, htree⟩ => ⟨htype, hlength, htree⟩,
    fun ⟨htype, hlength, htree⟩ => ⟨htype, hlength, htree⟩⟩

theorem readBody_cases {α : Type} {d : Decoder α} {Means : Tree → α → Prop} (h : d.Decides Means)
    (r : Request) : (∃ a, readBody d r = .ok a ∧ r.Says Means a) ∨
      ∃ reason, readBody d r = .error (.badRequest reason) := by
  cases hread : readBody d r with
  | ok a => exact .inl ⟨a, rfl, (readBody_eq_ok_iff h).1 hread⟩
  | error rejection =>
    refine .inr ?_
    rw [readBody] at hread
    repeat' split at hread
    all_goals cases hread
    all_goals exact ⟨_, rfl⟩

/-- A query is read as the filter that it asks for. -/
theorem readFilter_eq_ok_iff (hpath : r.path ≠ []) {f : VisitFilter} :
    readFilter r = .ok f ↔ r.Seeks f := by
  have hfilter : readFilter r = .ok f ↔ filterOfPairs? (queryPairs r.query) = some f := by
    rw [readFilter]
    cases filterOfPairs? (queryPairs r.query) with
    | none => exact iff_of_false nofun nofun
    | some g => exact ⟨by rintro ⟨⟩; rfl, by rintro ⟨⟩; rfl⟩
  rw [hfilter, filterOfPairs?_eq_some_iff]
  constructor
  · exact fun h => .intro (hasTarget_iff.2 ⟨rfl, rfl, hpath⟩) (queryPairs_eq_iff.1 rfl) h
  · rintro ⟨htarget, hquery, hfilter⟩
    obtain ⟨-, rfl, -⟩ := hasTarget_iff.1 htarget
    rwa [queryPairs_eq_iff.2 hquery]

/-- The reference in a path is read as the text that its segment says. -/
theorem readReference_eq_ok_iff {segment : List Char} {reference : String} :
    readReference segment = .ok reference ↔ SegmentSays segment reference := by
  rw [readReference, ← segmentText?_eq_some_iff]
  cases segmentText? segment with
  | none => exact iff_of_false nofun nofun
  | some text => exact ⟨by rintro ⟨⟩; rfl, by rintro ⟨⟩; rfl⟩

theorem readReference_cases (segment : List Char) :
    (∃ reference, readReference segment = .ok reference ∧ SegmentSays segment reference) ∨
      readReference segment = .error .badReference ∧ ∀ text, ¬ SegmentSays segment text := by
  cases h : segmentText? segment with
  | none =>
    refine .inr ⟨?_, segmentText?_eq_none_iff.1 h⟩
    rw [readReference, h]
  | some reference =>
    have hsays : SegmentSays segment reference := segmentText?_eq_some_iff.1 h
    exact .inl ⟨reference, readReference_eq_ok_iff.2 hsays, hsays⟩

/-! ### What a request comes to -/

/-- What comes of a request that names a resource. -/
inductive Outcome (r : Request) (resource : Resource) : Except Rejection Operation → Prop
  | asked (op : Operation) (h : r.Asks op) : Outcome r resource (.ok op)
  /-- The reference in the path is no text. -/
  | badReference (hmethod : r.method ∈ resource.methods) (segment : List Char)
      (h : resource.reference? = some segment) (htext : ∀ text, ¬ SegmentSays segment text) :
      Outcome r resource (.error .badReference)
  /-- The query or the body is not read. -/
  | badRequest (hmethod : r.method ∈ resource.methods) (reason : String) :
      Outcome r resource (.error (.badRequest reason))
  /-- The resource is not asked by this method. -/
  | badMethod (hmethod : r.method ∉ resource.methods) :
      Outcome r resource (.error (.badMethod resource.methods))

section Shapes

variable {α : Type} {d : Decoder α} {Means : Tree → α → Prop} {segment : List Char}

theorem outcome_of_body (h : d.Decides Means) {f : α → Operation}
    (hmethod : r.method ∈ resource.methods) (hasks : ∀ a, r.Says Means a → r.Asks (f a)) :
    r.Outcome resource ((readBody d r).map f) := by
  rcases readBody_cases h r with ⟨a, ha, hsays⟩ | ⟨reason, hreason⟩
  · rw [ha]
    exact .asked _ (hasks a hsays)
  · rw [hreason]
    exact .badRequest hmethod reason

theorem outcome_of_reference {f : String → Operation} (hmethod : r.method ∈ resource.methods)
    (hresource : resource.reference? = some segment)
    (hasks : ∀ reference, SegmentSays segment reference → r.Asks (f reference)) :
    r.Outcome resource ((readReference segment).map f) := by
  rcases readReference_cases segment with ⟨reference, hreference, htext⟩ | ⟨hnone, htext⟩
  · rw [hreference]
    exact .asked _ (hasks reference htext)
  · rw [hnone]
    exact .badReference hmethod segment hresource htext

theorem outcome_of_reference_and_body (h : d.Decides Means) {f : String → α → Operation}
    (hmethod : r.method ∈ resource.methods) (hresource : resource.reference? = some segment)
    (hasks : ∀ reference a, SegmentSays segment reference → r.Says Means a →
      r.Asks (f reference a)) :
    r.Outcome resource (do
      let reference ← readReference segment
      return f reference (← readBody d r)) := by
  rcases readReference_cases segment with ⟨reference, hreference, htext⟩ | ⟨hnone, htext⟩
  · rw [hreference]
    rcases readBody_cases h r with ⟨a, ha, hsays⟩ | ⟨reason, hreason⟩
    · rw [ha]
      exact .asked _ (hasks reference a htext hsays)
    · rw [hreason]
      exact .badRequest hmethod reason
  · rw [hnone]
    exact .badReference hmethod segment hresource htext

end Shapes

theorem Names.path_ne_nil (h : r.Names resource) : r.path ≠ [] := by
  obtain ⟨_, htarget⟩ := h.target
  obtain ⟨hpath, -, hne⟩ := hasTarget_iff.1 htarget
  rwa [hpath]

theorem outcome_operationOn (h : r.Names resource) :
    r.Outcome resource (r.operationOn resource) := by
  have hget : (if r.method = "HEAD" then "GET" else r.method) = "GET" →
      r.method = "GET" ∨ r.method = "HEAD" := by
    split
    · exact fun _ => .inr ‹_›
    · exact .inl
  have hother : ∀ m, m ≠ "GET" → (if r.method = "HEAD" then "GET" else r.method) = m →
      r.method = m := by
    intro m hm
    split
    · exact fun h => absurd h.symm hm
    · exact id
  have hmem : "GET" ∈ resource.methods → "HEAD" ∈ resource.methods →
      r.method = "GET" ∨ r.method = "HEAD" → r.method ∈ resource.methods := by
    rintro hget hhead (h | h)
    · exact h ▸ hget
    · exact h ▸ hhead
  unfold operationOn
  dsimp only
  split
  case h_1 hm =>
    have hmethod := hmem (by simp [Resource.methods]) (by simp [Resource.methods]) (hget hm)
    cases hread : readFilter r with
    | ok f => exact .asked _ (.search f (hget hm) h ((readFilter_eq_ok_iff h.path_ne_nil).1 hread))
    | error rejection =>
      rw [readFilter] at hread
      split at hread
      · cases hread
      · cases hread
        exact .badRequest hmethod _
  case h_2 hm =>
    have hpost := hother _ (by decide) hm
    exact outcome_of_body CreateRequest.decides (by simp [Resource.methods, hpost])
      fun q hq => .create q hpost h hq
  case h_3 hm =>
    have hpost := hother _ (by decide) hm
    exact outcome_of_body decides_text.list (by simp [Resource.methods, hpost])
      fun q hq => .deleteMany q hpost h hq
  case h_4 segment hm =>
    have hmethod := hmem (by simp [Resource.methods]) (by simp [Resource.methods]) (hget hm)
    exact outcome_of_reference hmethod rfl
      fun reference htext => .get segment reference (hget hm) h htext
  case h_5 segment hm =>
    have hput := hother _ (by decide) hm
    exact outcome_of_reference_and_body UpdateRequest.decides (by simp [Resource.methods, hput]) rfl
      fun reference q htext hq => .update segment reference q hput h htext hq
  case h_6 segment hm =>
    have hdelete := hother _ (by decide) hm
    exact outcome_of_reference (by simp [Resource.methods, hdelete]) rfl
      fun reference htext => .delete segment reference hdelete h htext
  case h_7 segment hm =>
    have hput := hother _ (by decide) hm
    exact outcome_of_reference_and_body SlotChange.decides (by simp [Resource.methods, hput]) rfl
      fun reference q htext hq => .change segment reference q hput h htext hq
  case h_8 segment hm =>
    have hpatch := hother _ (by decide) hm
    exact outcome_of_reference_and_body decides_cancel (by simp [Resource.methods, hpatch]) rfl
      fun reference q htext hq => .cancel segment reference q hpatch h htext hq
  case h_9 hm =>
    have hpost := hother _ (by decide) hm
    exact outcome_of_body MigrateRequest.decides (by simp [Resource.methods, hpost])
      fun q hq => .migrate q hpost h hq
  case h_10 hm => exact .asked _ (.supportTypes (hget hm) h)
  case h_11 =>
    refine .badMethod fun hmethod => ?_
    unfold Resource.methods at hmethod
    split at hmethod <;> simp_all

/-! ### What a request asks for -/

theorem Names.operation_eq (h : r.Names resource) : r.operation = r.operationOn resource := by
  rw [operation, Resource.ofPath?_eq_some_iff.2 (names_iff.1 h)]

theorem Asks.operation_eq (h : r.Asks op) : r.operation = .ok op := by
  cases h with
  | search f hmethod hpath hquery =>
    have hread := (readFilter_eq_ok_iff hpath.path_ne_nil).2 hquery
    rw [hpath.operation_eq]
    rcases hmethod with hm | hm <;> simp [operationOn, hm, hread, Except.map]
  | create q hm hpath hbody =>
    have hread := (readBody_eq_ok_iff CreateRequest.decides).2 hbody
    rw [hpath.operation_eq]
    simp [operationOn, hm, hread, Except.map]
  | deleteMany references hm hpath hbody =>
    have hread := (readBody_eq_ok_iff decides_text.list).2 hbody
    rw [hpath.operation_eq]
    simp [operationOn, hm, hread, Except.map]
  | get segment reference hmethod hpath htext =>
    have hreference := readReference_eq_ok_iff.2 htext
    rw [hpath.operation_eq]
    rcases hmethod with hm | hm <;> simp [operationOn, hm, hreference, Except.map]
  | update segment reference q hm hpath htext hbody =>
    have hreference := readReference_eq_ok_iff.2 htext
    have hread := (readBody_eq_ok_iff UpdateRequest.decides).2 hbody
    rw [hpath.operation_eq]
    simp [operationOn, hm, hreference, hread, bind, Except.bind, pure, Except.pure]
  | delete segment reference hm hpath htext =>
    have hreference := readReference_eq_ok_iff.2 htext
    rw [hpath.operation_eq]
    simp [operationOn, hm, hreference, Except.map]
  | change segment reference q hm hpath htext hbody =>
    have hreference := readReference_eq_ok_iff.2 htext
    have hread := (readBody_eq_ok_iff SlotChange.decides).2 hbody
    rw [hpath.operation_eq]
    simp [operationOn, hm, hreference, hread, bind, Except.bind, pure, Except.pure]
  | cancel segment reference reason hm hpath htext hbody =>
    have hreference := readReference_eq_ok_iff.2 htext
    have hread := (readBody_eq_ok_iff decides_cancel).2 hbody
    rw [hpath.operation_eq]
    simp [operationOn, hm, hreference, hread, bind, Except.bind, pure, Except.pure]
  | migrate q hm hpath hbody =>
    have hread := (readBody_eq_ok_iff MigrateRequest.decides).2 hbody
    rw [hpath.operation_eq]
    simp [operationOn, hm, hread, Except.map]
  | supportTypes hmethod hpath =>
    rw [hpath.operation_eq]
    rcases hmethod with hm | hm <;> simp [operationOn, hm]

/-- A request is taken for what it asks for. -/
theorem operation_eq_ok_iff : r.operation = .ok op ↔ r.Asks op := by
  refine ⟨fun h => ?_, Asks.operation_eq⟩
  cases hresource : Resource.ofPath? r.path with
  | none =>
    rw [operation, hresource] at h
    cases h
  | some resource =>
    have hnames : r.Names resource := names_iff.2 (Resource.ofPath?_eq_some_iff.1 hresource)
    have houtcome := outcome_operationOn hnames
    rw [← hnames.operation_eq, h] at houtcome
    cases houtcome with
    | asked _ hasks => exact hasks

end Request

end VisitBooking.Http
