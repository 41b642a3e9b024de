/-!
# Digits in a base

Numbers as lists of digits with the least significant digit first. Zero has one digit. The
digits are below the base when the base is at least two; for a smaller base the definitions are
total and say nothing useful.

## Main definitions

* `digits`: a number in a base.
* `ofDigits`: the number that a list of digits denotes.
* `padTo`: zeros at the most significant end, up to a length.
* `resize`: the same, and the most significant digits cut off if there are more.

## Main results

* `ofDigits_digits`, `ofDigits_padTo`: neither writing nor padding changes the number.
* `resize_eq_padTo`: nothing is cut off if there is room.
* `lt_of_mem_digits`: digits are below the base.
-/

namespace VisitBooking.Reference

/-- The digits of `n`, least significant first; one digit for zero. -/
def digits (base n : Nat) : List Nat :=
  if _ : 2 ≤ base ∧ base ≤ n then n % base :: digits base (n / base) else [n]
termination_by n
decreasing_by exact Nat.div_lt_self (by omega) (by omega)

/-- The number with the given digits, least significant first. -/
def ofDigits (base : Nat) : List Nat → Nat
  | [] => 0
  | d :: ds => d + base * ofDigits base ds

/-- `ds` with zeros at the most significant end, so that there are at least `len` digits. -/
def padTo (len : Nat) (ds : List Nat) : List Nat :=
  ds ++ List.replicate (len - ds.length) 0

/-- Just `len` digits: `ds` with zeros at the most significant end, or without the most significant
ones. -/
def resize (len : Nat) (ds : List Nat) : List Nat := (padTo len ds).take len

/-! ### Digits and back -/

theorem digits_ne_nil (base n : Nat) : digits base n ≠ [] := by
  unfold digits
  split <;> simp

/-- Digits are below the base. -/
theorem lt_of_mem_digits {base n : Nat} (hb : 2 ≤ base) : ∀ d ∈ digits base n, d < base := by
  fun_induction digits base n with
  | case1 n _ ih =>
    intro d hd
    rcases List.mem_cons.1 hd with rfl | hd
    · exact Nat.mod_lt _ (by omega)
    · exact ih d hd
  | case2 n h =>
    intro d hd
    rw [List.mem_singleton.1 hd]
    omega

@[simp] theorem ofDigits_digits (base n : Nat) : ofDigits base (digits base n) = n := by
  fun_induction digits base n with
  | case1 n _ ih => rw [ofDigits, ih, Nat.mod_add_div]
  | case2 n _ => simp [ofDigits]

@[simp] theorem ofDigits_replicate_zero (base len : Nat) :
    ofDigits base (List.replicate len 0) = 0 := by
  induction len with
  | zero => rfl
  | succ len ih => simp [List.replicate_succ, ofDigits, ih]

@[simp] theorem ofDigits_padTo (base len : Nat) (ds : List Nat) :
    ofDigits base (padTo len ds) = ofDigits base ds := by
  unfold padTo
  generalize len - ds.length = zeros
  induction ds with
  | nil => simp [ofDigits]
  | cons d ds ih => rw [List.cons_append, ofDigits, ih, ofDigits]

@[simp] theorem length_padTo (len : Nat) (ds : List Nat) :
    (padTo len ds).length = max ds.length len := by
  simp [padTo]; omega

@[simp] theorem length_resize (len : Nat) (ds : List Nat) : (resize len ds).length = len := by
  rw [resize, List.length_take, length_padTo]
  omega

theorem resize_eq_padTo {len : Nat} {ds : List Nat} (h : ds.length ≤ len) :
    resize len ds = padTo len ds := by
  have hlen : (padTo len ds).length = len := by rw [length_padTo, Nat.max_eq_right h]
  exact List.take_of_length_le (Nat.le_of_eq hlen)

end VisitBooking.Reference
