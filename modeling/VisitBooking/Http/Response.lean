import VisitBooking.Http.Request
import VisitBooking.Failure

/-!
# Responses over HTTP

An answer is written as JSON, or as a plain text where it is nothing but a reference. A failure is
written as an object with the status, what the user is told, and what the developer is told. Of a
failure of the system itself the user is told nothing.

## Main definitions

* `Response`.
* `Problem`: a failure or a request that is not understood, with `Problem.status`,
  `Problem.userMessage`, `Problem.developerMessage` and `Problem.record`.
* `Response.ofAnswer`, `Response.ofProblem`, `Response.ofRejection`.
-/

namespace VisitBooking.Http

open Json

/-- A response. -/
structure Response where
  status : Nat
  contentType : Option String := none
  body : String := ""
  /-- The methods by which the resource could have been asked. -/
  allowed : Option (List String) := none
deriving DecidableEq, Repr, Inhabited

/-! ### Problems -/

/-- What is wrong with a request that reached a resource. -/
inductive Problem where
  | failed (failure : Failure)
  /-- The query or the body says nothing that is understood. -/
  | badRequest (reason : String)
deriving DecidableEq, Inhabited

namespace Problem

/-- The problem in words. -/
def message : Problem → String
  | .failed f => f.message
  | .badRequest reason => "bad request: " ++ reason

/-- The status of the response. -/
def status : Problem → Nat
  | .failed (.notFound _) => 404
  | .failed (.refused _) => 400
  | .failed (.accessDenied _) => 403
  | .failed (.notPublished _ _) => 500
  | .failed (.store _) => 500
  | .badRequest _ => 400

/-- What the user is told. -/
def userMessage : Problem → Option String
  | .failed (.notFound _) => some "Visit not found"
  | .failed (.refused reason) => some ("Validation failure: " ++ reason.message)
  | .failed (.accessDenied _) => some "Access denied"
  | .failed (.notPublished _ _) => none
  | .failed (.store _) => none
  | .badRequest reason => some ("Validation failure: " ++ reason)

/-- What the developer is told. -/
def developerMessage : Problem → String
  | .failed (.refused reason) => reason.detail
  | .failed f => f.message
  | .badRequest reason => reason

/-- The record of the problem. What the caller got wrong does not matter much. -/
def record : Problem → LogRecord
  | .failed (.notFound reference) =>
    .info ("not found: " ++ (Failure.notFound reference).message) []
  | .failed (.refused reason) =>
    .info ("validation failure: " ++ (Failure.refused reason).message) []
  | .failed (.accessDenied text) =>
    { level := .debug, message := "forbidden: " ++ (Failure.accessDenied text).message }
  | .failed f => { level := .error, message := "unexpected error: " ++ f.message }
  | .badRequest reason => .info ("validation failure: " ++ reason) []

/-- The body of the response. -/
def toJson (p : Problem) : Value := .object
  [ ("status", .int p.status),
    ("userMessage", .ofOption .text p.userMessage),
    ("developerMessage", .text p.developerMessage) ]

end Problem

/-! ### Responses -/

/-- The content type of a plain text. -/
def plainText : String := "text/plain; charset=utf-8"

namespace Response

/-- A response in JSON. -/
def json (status : Nat) (v : Value) : Response :=
  { status := status, contentType := some "application/json", body := v.print }

/-- A response in plain text. -/
def plain (status : Nat) (text : String) : Response :=
  { status := status, contentType := some plainText, body := text }

/-- The response with an answer. What an operation makes is answered as created. -/
def ofAnswer (op : Operation) : Answer → Response
  | .visit v => json (match op with | .create _ => 201 | _ => 200) v.toJson
  | .visits vs => json 200 (.ofList Visit.toJson vs)
  | .reference reference => plain 201 reference
  | .supportTypes types => json 200 (.ofList SupportType.toJson types)
  | .deleted => { status := 204 }
  | .deletedCount count => json 200 (.object [("deleted", .int count)])

/-- The response to a problem. -/
def ofProblem (p : Problem) : Response := json p.status p.toJson

/-- The response to a request that asks for nothing that can be done. -/
def ofRejection : Rejection → Response
  | .noResource => { status := 404 }
  | .badMethod allowed => { status := 405, allowed := some allowed }
  | .badReference => plain 400 "Invalid URL: Invalid UTF-8 in `reference`"
  | .badRequest reason => ofProblem (.badRequest reason)

end Response

end VisitBooking.Http
