import VisitBooking.Http.Percent
import VisitBooking.Http.MediaType
import VisitBooking.Http.Route
import VisitBooking.Request.Json
import VisitBooking.Service.Operation

/-!
# Requests over HTTP

A request names a resource by the path of its target and asks for something by its method. What it
asks with is in the query or in the body, which has to be JSON.

Faults are looked for in this order: the resource, the method, the reference in the path, the type
of the body, its length, and what it says.

## Main definitions

* `Request`, `Rejection`.
* `Request.operation`: what a request asks for.
-/

namespace VisitBooking.Http

open VisitBooking.Text Json Calendar

/-- A request. -/
structure Request where
  method : String
  /-- Path and query, with or without a scheme and an authority in front. -/
  target : String
  contentType : Option String
  body : List UInt8
deriving DecidableEq, Repr, Inhabited

/-- Why a request asks for nothing that can be done. -/
inductive Rejection where
  /-- The path names no resource. -/
  | noResource
  /-- The resource cannot be asked by this method. -/
  | badMethod (allowed : List String)
  /-- The reference in the path is no text. -/
  | badReference
  /-- The query or the body says nothing that is understood. -/
  | badRequest (reason : String)
deriving DecidableEq, Repr, Inhabited

namespace Request

/-- What follows the scheme and the authority of a target that names them. A target that is an
authority alone, or a star, has nothing else. -/
def afterAuthority (target : List Char) : List Char :=
  match target.dropWhile (· ≠ ':') with
  | ':' :: '/' :: '/' :: s => s.dropWhile fun c => c ≠ '/' ∧ c ≠ '?'
  | _ => []

/-- The target without its fragment, from the path on. -/
def address (r : Request) : List Char :=
  match (cutAt '#' r.target.toList).1 with
  | '/' :: s => '/' :: s
  | target => afterAuthority target

/-- The path of the target. -/
def path (r : Request) : List Char := (cutAt '?' r.address).1

/-- The query of the target; it may be empty. -/
def query (r : Request) : List Char := ((cutAt '?' r.address).2).getD []

/-! ### Bodies -/

/-- The greatest number of bytes of a body. -/
def bodyLimit : Nat := 2097152

/-- Read the body of a request. The reason of a rejection is the kind of fault alone: the place of
the fault and the words in which a JSON reader goes on about it are left out. -/
def readBody {α : Type} (d : Decoder α) (r : Request) : Except Rejection α :=
  if !(r.contentType.any isJsonType) then
    .error (.badRequest "Expected request with `Content-Type: application/json`")
  else if bodyLimit < r.body.length then
    .error (.badRequest "Failed to buffer the request body")
  else match Decoder.run d (.ofChars (Utf8.perByte r.body)) with
    | .ok a => .ok a
    | .error .mismatch =>
      .error (.badRequest "Failed to deserialize the JSON body into the target type")
    | .error _ => .error (.badRequest "Failed to parse the request body as JSON")

/-! ### Queries -/

/-- The value of a name in a query, read with `read?`; none if the name does not come. Fails if the
name comes twice or its value is not understood. -/
def queryField? {α : Type} (read? : String → Option α) (name : String)
    (pairs : List (String × String)) : Option (Option α) :=
  match pairs.filter fun p => p.1 == name with
  | [] => some none
  | [(_, value)] => (read? value).map some
  | _ => none

/-- An integer of 64 bits with a sign. -/
def int64OfText? (s : String) : Option Int64 := (integer? s.toList).bind int64OfInt?

/-- The filter that a query asks for. Other names are passed over. -/
def filterOfPairs? (pairs : List (String × String)) : Option VisitFilter := do
  return {
    prisoner := ← queryField? some "prisonerId" pairs
    prison := ← queryField? some "prisonId" pairs
    room := ← queryField? some "visitRoom" pairs
    starts := ← queryField? LocalTime.ofWire? "startTimestamp" pairs
    ends := ← queryField? LocalTime.ofWire? "endTimestamp" pairs
    status := ← queryField? Enumeration.named? "visitStatus" pairs
    person := ← queryField? int64OfText? "nomisPersonId" pairs }

/-- Read the query of a request as a filter. The reason of a rejection does not go on to tell what
is wrong with which name. -/
def readFilter (r : Request) : Except Rejection VisitFilter :=
  match filterOfPairs? (queryPairs r.query) with
  | some f => .ok f
  | none => .error (.badRequest "Failed to deserialize query string")

/-! ### Operations -/

/-- The reference in a path. -/
def readReference (segment : List Char) : Except Rejection String :=
  match segmentText? segment with
  | some reference => .ok reference
  | none => .error .badReference

/-- What a request asks of a resource. -/
def operationOn (r : Request) (resource : Resource) : Except Rejection Operation :=
  -- The answer to HEAD is that to GET without its body.
  let method := if r.method = "HEAD" then "GET" else r.method
  match resource, method with
  | .visits, "GET" => (readFilter r).map .search
  | .visits, "POST" => (readBody CreateRequest.decode r).map .create
  | .deletion, "POST" => (readBody (decodeList decodeText) r).map .deleteMany
  | .visit segment, "GET" => (readReference segment).map .get
  | .visit segment, "PUT" => do
    let reference ← readReference segment
    return .update reference (← readBody UpdateRequest.decode r)
  | .visit segment, "DELETE" => (readReference segment).map .delete
  | .slot segment, "PUT" => do
    let reference ← readReference segment
    return .change reference (← readBody SlotChange.decode r)
  | .cancellation segment, "PATCH" => do
    let reference ← readReference segment
    return .cancel reference (← readBody decodeCancel r)
  | .migration, "POST" => (readBody MigrateRequest.decode r).map .migrate
  | .support, "GET" => .ok .supportTypes
  | resource, _ => .error (.badMethod resource.methods)

/-- What a request asks for. -/
def operation (r : Request) : Except Rejection Operation :=
  match Resource.ofPath? r.path with
  | none => .error .noResource
  | some resource => r.operationOn resource

end Request

end VisitBooking.Http
