import VisitBooking.Http.Response
import VisitBooking.Service.Basic

/-!
# The service over HTTP

A request that asks for an operation is answered with what the service answers; any other request is
answered without asking the service.

## Main definitions

* `Reply`: the response, the attempt at a publication, and the records.
* `serve`: the reply to a request.
-/

namespace VisitBooking.Http

/-- What comes of a request. -/
structure Reply where
  response : Response
  attempt : Option Attempt
  logs : List LogRecord
deriving Inhabited

/-- The records of a rejection. -/
def Rejection.records : Rejection → List LogRecord
  | .badRequest reason => [(Problem.badRequest reason).record]
  | .noResource | .badMethod _ | .badReference => []

/-- The reply to a request that asks for nothing that can be done. -/
def Reply.ofRejection (r : Rejection) : Reply := ⟨.ofRejection r, none, r.records⟩

/-- The reply with what the service reports. -/
def Reply.ofReport (op : Operation) (report : Report) : Reply :=
  match report.result with
  | .ok answer => ⟨.ofAnswer op answer, report.attempt, report.logs⟩
  | .error failure =>
    ⟨.ofProblem (.failed failure), report.attempt,
      report.logs ++ [(Problem.failed failure).record]⟩

/-- The reply as it is sent for the method: to HEAD without a body. -/
def Reply.forMethod (method : String) (r : Reply) : Reply :=
  if method = "HEAD" then { r with response := { r.response with body := "" } } else r

/-- Serve a request, with the given readings of the clock and the given answer of the transport. -/
def serve (s : Service) (readings : Readings) (verdict : Verdict) (r : Request) (store : Store) :
    Reply × Store :=
  match r.operation with
  | .error rejection => ((Reply.ofRejection rejection).forMethod r.method, store)
  | .ok op =>
    let (report, store) := s.run readings verdict op store
    ((Reply.ofReport op report).forMethod r.method, store)

end VisitBooking.Http
