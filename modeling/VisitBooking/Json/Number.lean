import VisitBooking.Text.Decimal

/-!
# Numbers as they are written

A number is kept in the form in which it is written: its sign, all its digits as one natural
number, and a power of ten unless it is written as an integer. So `1.0` is no integer, and `-0`
differs from `0`.

## Main definitions

* `Number`, `Number.ofInt`.
* `Number.int64?`: the integer, if it is one of 64 bits with a sign.
* `Number.isFinite`: the number does not overflow a double.
-/

namespace VisitBooking.Json

/-- A number as it is written. -/
structure Number where
  /-- It has a minus sign. -/
  negative : Bool
  /-- Its digits before and after the point. -/
  digits : Nat
  /-- The power of ten that the digits are multiplied with; none for an integer. -/
  exponent : Option Int
deriving DecidableEq, Repr, Inhabited

namespace Number

/-- An integer. -/
def ofInt (i : Int) : Number := ⟨decide (i < 0), i.natAbs, none⟩

/-- The integer that is written, if the number is written as one. Minus zero is none. -/
def int? (n : Number) : Option Int :=
  if n.exponent = none then
    if n.negative then (if n.digits = 0 then none else some (-(n.digits : Int)))
    else some n.digits
  else none

theorem int?_ofInt (i : Int) : (ofInt i).int? = some i := by
  unfold ofInt int?
  by_cases h : i < 0 <;> simp only [h, decide_true, decide_false, if_true, Bool.false_eq_true,
    if_false]
  · rw [if_neg (by omega)]; congr 1; omega
  · congr 1; omega

/-- The integer that is written, if it has 64 bits with a sign. -/
def int64? (n : Number) : Option Int64 := n.int?.bind Text.int64OfInt?

/-- The natural number that is written, if it is below `bound`. -/
def natBelow? (bound : Nat) (n : Number) : Option Nat :=
  match n.int? with
  | some i => if 0 ≤ i ∧ i < bound then some i.toNat else none
  | none => none

/-! ### Overflow -/

/-- `n` rounded to its leading 53 bits, a half to the even neighbour. -/
def roundedTo53Bits (n : Nat) : Nat :=
  let unit := 1 <<< (n.log2 - 52)
  let q := n / unit
  let r := n % unit
  (if 2 * r < unit ∨ (2 * r = unit ∧ q % 2 = 0) then q else q + 1) * unit

/-- `digits` without as many of the last digits as is needed to get to 64 bits, and how many these
are. -/
def leadingOf (digits : Nat) : Nat × Nat :=
  if _ : digits < UInt64.size then (digits, 0)
  else
    let (d, dropped) := leadingOf (digits / 10)
    (d, dropped + 1)
termination_by digits
decreasing_by simp only [UInt64.size] at *; omega

/-- The number stays in the range of a double. The leading digits and the power of ten are rounded
to doubles each, and so is their product. -/
def isFinite (n : Number) : Bool :=
  let (leading, dropped) := leadingOf n.digits
  let exponent := n.exponent.getD 0 + dropped
  if leading = 0 ∨ exponent ≤ 0 then true
  else if 308 < exponent then false
  else decide (roundedTo53Bits leading * roundedTo53Bits (Nat.pow 10 exponent.toNat)
    < 1 <<< 1024 - 1 <<< 970)

end Number

end VisitBooking.Json
