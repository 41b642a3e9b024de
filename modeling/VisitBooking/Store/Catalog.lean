import VisitBooking.Json.Value

/-!
# Support catalog

The kinds of support that a visitor may ask for.

## Main definitions

* `SupportType.all`, `SupportType.seeded`: the built-in catalog, and how it gets into a store.
* `SupportType.named?`.
-/

namespace VisitBooking

/-- A kind of support. -/
structure SupportType where
  code : Nat
  name : String
  description : String
deriving DecidableEq, Repr, Inhabited

namespace SupportType

/-- The built-in kinds of support, by ascending code. -/
def all : List SupportType := [
  ⟨1001, "WHEELCHAIR", "Wheelchair ramp"⟩,
  ⟨1002, "INDUCTION_LOOP", "Portable induction loop for people with hearing aids"⟩,
  ⟨1003, "BSL_INTERPRETER", "British Sign Language (BSL) Interpreter"⟩,
  ⟨1004, "MASK_EXEMPT", "Face covering exemption"⟩,
  ⟨1005, "OTHER", "Other"⟩]

/-- A catalog with the built-in kinds of support put in. One whose code or name is there already
stays out. -/
def seeded (catalog : List SupportType) : List SupportType :=
  all.foldl (fun known t =>
    if known.any fun u => u.code == t.code || u.name == t.name then known else known ++ [t]) catalog

@[simp] theorem seeded_nil : seeded [] = all := by decide

@[simp] theorem seeded_all : seeded all = all := by decide

/-- The kind of support with the given name. -/
def named? (name : String) (catalog : List SupportType := all) : Option SupportType :=
  catalog.find? fun t => t.name == name

/-- The kinds of support in a catalog, by ascending code. -/
def listed (catalog : List SupportType) : List SupportType :=
  catalog.mergeSort fun a b => decide (a.code ≤ b.code)

/-- A kind of support as an object. -/
def toJson (t : SupportType) : Json.Value := .object
  [("code", .int t.code), ("name", .text t.name), ("description", .text t.description)]

end SupportType

end VisitBooking
