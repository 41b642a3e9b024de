import VisitBooking.Text.Pieces

/-!
# Resources

What the segments of a path name. The name `delete` under the visits is an action and not a
reference, unless something follows it. A reference may be empty only where something follows it.

## Main definitions

* `Resource.ofPath?`, `Resource.methods`.
-/

namespace VisitBooking.Http

/-- What a path names. References are percent-encoded. -/
inductive Resource where
  /-- All visits. -/
  | visits
  /-- The deletion of several visits. -/
  | deletion
  /-- One visit. -/
  | visit (reference : List Char)
  /-- The slot of a visit. -/
  | slot (reference : List Char)
  /-- The cancellation of a visit. -/
  | cancellation (reference : List Char)
  /-- The import of visits. -/
  | migration
  /-- The support catalog. -/
  | support
deriving DecidableEq, Repr, Inhabited

namespace Resource

/-- What the segments of a path name. -/
def ofSegments? (segments : List (List Char)) : Option Resource :=
  match segments with
  | [[], first] =>
    if first = "visits".toList then some .visits
    else if first = "migrate-visits".toList then some .migration
    else if first = "visit-support".toList then some .support
    else none
  | [[], first, reference] =>
    if first ≠ "visits".toList ∨ reference = [] then none
    else if reference = "delete".toList then some .deletion
    else some (.visit reference)
  | [[], first, reference, part] =>
    if first ≠ "visits".toList then none
    else if part = "change".toList then some (.slot reference)
    else if part = "cancel".toList then some (.cancellation reference)
    else none
  | _ => none

/-- What a path names. -/
def ofPath? (path : List Char) : Option Resource := ofSegments? (Text.pieces (· == '/') path)

/-- The methods by which a resource can be asked, in alphabetical order. -/
def methods : Resource → List String
  | .visits => ["GET", "HEAD", "POST"]
  | .deletion => ["POST"]
  | .visit _ => ["DELETE", "GET", "HEAD", "PUT"]
  | .slot _ => ["PUT"]
  | .cancellation _ => ["PATCH"]
  | .migration => ["POST"]
  | .support => ["GET", "HEAD"]

end Resource

end VisitBooking.Http
