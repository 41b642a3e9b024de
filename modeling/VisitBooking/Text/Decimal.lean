/-!
# Decimal numbers as characters

Natural numbers in base ten, plain or filled up with zeros to a fixed width, and the reading of a
run of digits. The reader takes the first digits it finds, at most a given number of them, and
hands back the rest of the text.

## Main definitions

* `decimal`, `padded`, `signed`: writing.
* `value`: the number that a run of digits denotes.
* `takeNumber?`: reading, with a least and a greatest number of digits.
* `int64OfInt?`: the integers of 64 bits.
-/

namespace VisitBooking.Text

/-- `n` in base ten, without leading zeros. -/
def decimal (n : Nat) : List Char := Nat.toDigits 10 n

/-- `n` in base ten, with zeros in front so that there are at least `width` digits. -/
def padded (width n : Nat) : List Char :=
  List.replicate (width - (decimal n).length) '0' ++ decimal n

/-- `i` in base ten, with a minus sign in front of a negative number only. -/
def signed (i : Int) : List Char :=
  if i < 0 then '-' :: decimal i.natAbs else decimal i.natAbs

/-- The number that a run of decimal digits denotes; zero for no digits. -/
def value (ds : List Char) : Nat := Nat.ofDigitChars 10 ds 0

/-- The digits at the front of `s`, at most `most` of them. -/
def leadingDigits (most : Nat) (s : List Char) : List Char :=
  (s.take most).takeWhile Char.isDigit

/-- Read the digits at the front of `s`, at most `most` of them; fails on fewer than `least`. -/
def takeNumber? (least most : Nat) (s : List Char) : Option (Nat × List Char) :=
  let ds := leadingDigits most s
  if ds.length < least then none else some (value ds, s.drop ds.length)

/-- The integer that the whole of `s` denotes: digits, with one sign allowed in front. -/
def integer? (s : List Char) : Option Int :=
  let digits (ds : List Char) : Option Nat :=
    if ds ≠ [] ∧ ds.all Char.isDigit then some (value ds) else none
  match s with
  | '-' :: ds => (digits ds).map fun n => -(n : Int)
  | '+' :: ds => (digits ds).map fun n => (n : Int)
  | ds => (digits ds).map fun n => (n : Int)

/-- The integer in 64 bits with a sign, if it is in their range. -/
def int64OfInt? (i : Int) : Option Int64 :=
  if Int64.minValue.toInt ≤ i ∧ i ≤ Int64.maxValue.toInt then some (Int64.ofInt i) else none

theorem toInt_of_int64OfInt? {i : Int} {w : Int64} (h : int64OfInt? i = some w) : w.toInt = i := by
  unfold int64OfInt? at h
  split at h
  case isTrue hi =>
    cases h
    exact Int64.toInt_ofInt_of_le hi.1 (Int.lt_of_le_of_lt hi.2 (by decide))
  case isFalse => cases h

end VisitBooking.Text
