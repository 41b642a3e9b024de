import VisitBooking.Enumeration
import VisitBooking.Proofs.Json.Printed

/-!
# What is written is read back

A reader and a way of writing belong together if the reader finds in a written value what it was
written from. Readers are put together from readers of parts, and whether they read back is decided
part by part in the same way: there is a rule for each of `decodeParsed`, `decodeNumber`,
`decodeOption` and `decodeList`.

The rule for parts that may be missing asks for one thing more. A missing part is written as null,
so no part that is there may be.

## Main definitions

* `Decoder.ReadsBack`: all that is written in this way is read back.

## Main results

* `readsBack_text`, `readsBack_int64`, `Enumeration.readsBack`.
* `Decoder.readsBack_parsed`, `Decoder.ReadsBack.option`, `Decoder.ReadsBack.list`.
* `Decoder.ReadsBack.run`: whole texts.
-/

namespace VisitBooking

namespace Json

variable {α : Type} {d : Decoder α} {write : α → Value}

/-- All that is written in this way is read back. -/
def Decoder.ReadsBack (d : Decoder α) (write : α → Value) : Prop :=
  ∀ a, d.ofValue (write a) = .ok a

/-- A value that is printed is read back from the text. -/
theorem Decoder.ReadsBack.run (h : d.ReadsBack write) (a : α) :
    d.run (.ofText (write a).print) = .ok a :=
  (d.run_print (write a)).trans (h a)

/-! ### Simple values -/

theorem readsBack_text : decodeText.ReadsBack .text := fun _ => rfl

/-- A text is read back if its reader reads it back. -/
theorem Decoder.readsBack_parsed {read? : String → Option α} {text : α → String}
    (h : ∀ a, read? (text a) = some a) :
    (decodeParsed read?).ReadsBack fun a => .text (text a) := by
  intro a
  simp only [Decoder.ofValue, Value.tree, decodeParsed, decodeText, bind, Except.bind, h]

theorem decodeNumber_int {read? : Number → Option α} {i : Int} {a : α}
    (h : read? (.ofInt i) = some a) : (decodeNumber read?).ofValue (.int i) = .ok a := by
  simp only [Decoder.ofValue, Value.int, Value.tree, decodeNumber, h]

theorem int64OfInt?_toInt (w : Int64) : Text.int64OfInt? w.toInt = some w := by
  rw [Text.int64OfInt?, if_pos ⟨w.minValue_le_toInt, w.toInt_le⟩, Int64.ofInt_toInt]

theorem readsBack_int64 : decodeInt64.ReadsBack fun w => .int w.toInt := by
  intro w
  have hread : Number.int64? (.ofInt w.toInt) = some w := by
    rw [Number.int64?, Number.int?_ofInt, Option.bind_some, int64OfInt?_toInt]
  exact decodeNumber_int hread

/-! ### Parts that may be missing, and lists -/

theorem Decoder.ReadsBack.option (h : d.ReadsBack write) (hwrite : ∀ a, write a ≠ .null) :
    (decodeOption d).ReadsBack (.ofOption write) := by
  rintro (_ | a)
  · rfl
  · have hsome : decodeOption d (write a).tree = (d (write a).tree).map some := by
      cases hv : write a with
      | null => exact absurd hv (hwrite a)
      | bool | number | text | list | object => rfl
    show decodeOption d (write a).tree = .ok (some a)
    rw [hsome, show d (write a).tree = .ok a from h a]
    rfl

theorem Decoder.ReadsBack.list (h : d.ReadsBack write) :
    (decodeList d).ReadsBack (.ofList write) := by
  have hitems (as : List α) : decodeItems d (Value.trees (as.map write)) = .ok as := by
    induction as with
    | nil => rfl
    | cons a as ih =>
      rw [List.map_cons, Value.trees, decodeItems, show d (write a).tree = .ok a from h a, ih]
      rfl
  intro as
  show (do
    let as ← decodeItems d (Value.trees (as.map write))
    Ending.closed.check
    return as) = Except.ok as
  rw [hitems]
  rfl

end Json

/-- A value of an enumeration is read back by its name. -/
theorem Enumeration.readsBack {α : Type} [Enumeration α] :
    Json.Decoder.ReadsBack (Enumeration.decode (α := α)) Enumeration.toJson := by
  intro a
  show Json.decodeName named? (name a) = .ok a
  rw [Json.decodeName, named?_name]

end VisitBooking
