import VisitBooking.Text.Utf8
import VisitBooking.Text.Pieces

/-!
# Percent-encoding

A byte of a target may be written as a percent sign and two hexadecimal digits. A percent sign that
is followed by anything else stands for itself. In a query a plus sign stands for a blank.

## Main definitions

* `percentDecoded`: the bytes that are meant.
* `queryPairs`: names and values of a query.
-/

namespace VisitBooking.Http

open VisitBooking.Text

/-- The value of a hexadecimal digit. -/
def hexByte? (b : UInt8) : Option UInt8 :=
  if 0x30 ≤ b ∧ b ≤ 0x39 then some (b - 0x30)
  else if 0x41 ≤ b ∧ b ≤ 0x46 then some (b - 0x41 + 10)
  else if 0x61 ≤ b ∧ b ≤ 0x66 then some (b - 0x61 + 10)
  else none

/-- The bytes that are meant by percent-encoded ones. -/
def percentDecoded : List UInt8 → List UInt8
  | 0x25 :: h :: l :: s =>
    match hexByte? h, hexByte? l with
    | some h, some l => (h * 16 + l) :: percentDecoded s
    | _, _ => 0x25 :: percentDecoded (h :: l :: s)
  | b :: s => b :: percentDecoded s
  | [] => []

/-- The text that a segment of a path stands for, if it is one. -/
def segmentText? (segment : List Char) : Option String :=
  Utf8.text? (percentDecoded (Utf8.bytes (String.ofList segment)))

/-- The text that a part of a query stands for. -/
def queryText (part : List Char) : String :=
  let blanks := part.map fun c => if c = '+' then ' ' else c
  Utf8.lossyText (percentDecoded (Utf8.bytes (String.ofList blanks)))

/-- Names and values of a query, in order. A value may be missing and is empty then. -/
def queryPairs (query : List Char) : List (String × String) :=
  ((pieces (· == '&') query).filter (· ≠ [])).map fun part =>
    let (name, value) := cutAt '=' part
    (queryText name, queryText (value.getD []))

end VisitBooking.Http
