import Mathlib.Algebra.Group.Nat.Defs
import VisitBooking.Text.Blank
import VisitBooking.Text.Decimal

/-!
# Padded numbers are read back, and order as they should

A number filled up with zeros is a run of digits that denotes it. The reader takes such a run off
the front of a text and stops where it ends: because it takes no more digits than that, or because
no digit follows. Numbers of the same width order as texts as they do as numbers, which is what the
columns of times are made for.

## Main results

* `value_padded`, `length_padded`, `isDigit_of_mem_padded`: what a padded number is.
* `takeNumber?_padded`, `takeNumber?_padded_width`: it is read back.
* `padded_append_lt_iff`: texts that begin with numbers of one width order as the numbers do.
* `trimStart_padded_append`: there is no white space in front of it.
-/

namespace VisitBooking.Text

/-! ### Padded numbers -/

theorem isDigit_of_mem_padded (width n : Nat) : ∀ c ∈ padded width n, c.isDigit := by
  intro c hc
  rcases List.mem_append.1 hc with h | h
  · rw [List.eq_of_mem_replicate h]
    rfl
  · exact Nat.isDigit_of_mem_toDigits (by decide) (by decide) h

@[simp] theorem value_padded (width n : Nat) : value (padded width n) = n := by
  rw [value, padded, Nat.ofDigitChars_append, Nat.ofDigitChars_replicate_zero, Nat.mul_zero,
    decimal, Nat.ofDigitChars_ten_toDigits]

theorem le_length_padded (width n : Nat) : width ≤ (padded width n).length := by
  rw [padded, List.length_append, List.length_replicate]
  omega

theorem length_padded_le {width most n : Nat} (hw : width ≤ most) (hm : 0 < most)
    (hn : n < 10 ^ most) : (padded width n).length ≤ most := by
  have hdecimal : (decimal n).length ≤ most := (Nat.length_toDigits_le_iff (by decide) hm).2 hn
  rw [padded, List.length_append, List.length_replicate]
  omega

theorem length_padded {width n : Nat} (hw : 0 < width) (hn : n < 10 ^ width) :
    (padded width n).length = width :=
  Nat.le_antisymm (length_padded_le (Nat.le_refl _) hw hn) (le_length_padded ..)

theorem padded_ne_nil (width n : Nat) : padded width n ≠ [] := by
  simp [padded, decimal]

theorem toNat_of_isDigit {c : Char} (h : c.isDigit) : 48 ≤ c.toNat ∧ c.toNat ≤ 57 := by
  simpa [Char.isDigit, UInt32.le_iff_toNat_le] using h

/-! ### Reading -/

/-- No digit stands at the front. -/
def NoDigitFirst (s : List Char) : Prop := ∀ c ∈ s.head?, c.isDigit = false

theorem noDigitFirst_cons {c : Char} (s : List Char) (h : c.isDigit = false) :
    NoDigitFirst (c :: s) := by
  intro d hd
  rw [← Option.some_inj.1 hd]
  exact h

theorem takeWhile_isDigit_of_noDigitFirst {s : List Char} (h : NoDigitFirst s) :
    s.takeWhile Char.isDigit = [] := by
  cases s with
  | nil => rfl
  | cons c s => exact List.takeWhile_cons_of_neg (by simp [h c rfl])

theorem leadingDigits_append {most : Nat} {ds rest : List Char} (hds : ∀ c ∈ ds, c.isDigit)
    (hlen : ds.length ≤ most) (hrest : ds.length = most ∨ NoDigitFirst rest) :
    leadingDigits most (ds ++ rest) = ds := by
  have hstop : (rest.take (most - ds.length)).takeWhile Char.isDigit = [] := by
    rcases hrest with h | h
    · simp [h]
    · refine takeWhile_isDigit_of_noDigitFirst fun c hc => h c ?_
      rw [List.head?_take] at hc
      split at hc
      · cases hc
      · exact hc
  rw [leadingDigits, List.take_append, List.take_of_length_le hlen,
    List.takeWhile_append_of_pos hds, hstop, List.append_nil]

theorem takeNumber?_append {least most : Nat} {ds rest : List Char} (hds : ∀ c ∈ ds, c.isDigit)
    (hleast : least ≤ ds.length) (hlen : ds.length ≤ most)
    (hrest : ds.length = most ∨ NoDigitFirst rest) :
    takeNumber? least most (ds ++ rest) = some (value ds, rest) := by
  rw [takeNumber?, leadingDigits_append hds hlen hrest]
  simp [Nat.not_lt.2 hleast]

theorem takeNumber?_eq_none {least most : Nat} {s : List Char} (hleast : 0 < least)
    (h : NoDigitFirst s) : takeNumber? least most s = none := by
  have hdigits : leadingDigits most ([] ++ s) = [] :=
    leadingDigits_append nofun (Nat.zero_le most) (.inr h)
  rw [List.nil_append] at hdigits
  rw [takeNumber?, hdigits]
  exact if_pos hleast

/-- A padded number is read back if something else than a digit follows. -/
theorem takeNumber?_padded {least most width n : Nat} {rest : List Char} (hleast : least ≤ width)
    (hlen : (padded width n).length ≤ most) (hrest : NoDigitFirst rest) :
    takeNumber? least most (padded width n ++ rest) = some (n, rest) := by
  rw [takeNumber?_append (isDigit_of_mem_padded width n)
    (Nat.le_trans hleast (le_length_padded ..)) hlen (.inr hrest), value_padded]

/-- A number padded to the width that is read is read back whatever follows. -/
theorem takeNumber?_padded_width {least width n : Nat} (rest : List Char) (hleast : least ≤ width)
    (hw : 0 < width) (hn : n < 10 ^ width) :
    takeNumber? least width (padded width n ++ rest) = some (n, rest) := by
  have hlen : (padded width n).length = width := length_padded hw hn
  rw [takeNumber?_append (isDigit_of_mem_padded width n) (by omega) (by omega) (.inl hlen),
    value_padded]

/-! ### Order -/

theorem value_cons (c : Char) (ds : List Char) :
    value (c :: ds) = 10 ^ ds.length * (c.toNat - '0'.toNat) + value ds := by
  rw [value, Nat.ofDigitChars_cons, Nat.mul_zero, Nat.zero_add,
    Nat.ofDigitChars_eq_ofDigitChars_zero, value]

theorem value_lt {ds : List Char} (h : ∀ c ∈ ds, c.isDigit) : value ds < 10 ^ ds.length := by
  induction ds with
  | nil => exact Nat.one_pos
  | cons c ds ih =>
    have hc := toNat_of_isDigit (h c (List.mem_cons_self ..))
    have hds : value ds < 10 ^ ds.length := ih fun d hd => h d (List.mem_cons_of_mem c hd)
    have hdigit : c.toNat - '0'.toNat ≤ 9 := by
      have : '0'.toNat = 48 := rfl
      omega
    calc value (c :: ds) = 10 ^ ds.length * (c.toNat - '0'.toNat) + value ds := value_cons c ds
      _ < 10 ^ ds.length * (c.toNat - '0'.toNat) + 10 ^ ds.length := Nat.add_lt_add_left hds _
      _ = 10 ^ ds.length * (c.toNat - '0'.toNat + 1) := by rw [Nat.mul_succ]
      _ ≤ 10 ^ ds.length * 10 := Nat.mul_le_mul_left _ (by omega)
      _ = 10 ^ (c :: ds).length := by rw [List.length_cons, Nat.pow_succ]

/-- Texts of one length and what follows them are compared one after the other. -/
theorem append_lt_append_iff {a b s t : List Char} (hlen : a.length = b.length) :
    a ++ s < b ++ t ↔ a < b ∨ a = b ∧ s < t := by
  induction a generalizing b with
  | nil =>
    obtain rfl : b = [] := List.length_eq_zero_iff.1 hlen.symm
    simp
  | cons c a ih =>
    cases b with
    | nil => cases hlen
    | cons d b =>
      rw [List.cons_append, List.cons_append, List.cons_lt_cons_iff, List.cons_lt_cons_iff,
        ih (Nat.succ.inj hlen)]
      constructor
      · rintro (hcd | ⟨rfl, hab | ⟨rfl, hst⟩⟩)
        · exact .inl (.inl hcd)
        · exact .inl (.inr ⟨rfl, hab⟩)
        · exact .inr ⟨rfl, hst⟩
      · rintro ((hcd | ⟨rfl, hab⟩) | ⟨heq, hst⟩)
        · exact .inl hcd
        · exact .inr ⟨rfl, .inl hab⟩
        · obtain ⟨rfl, rfl⟩ := List.cons.inj heq
          exact .inr ⟨rfl, .inr ⟨rfl, hst⟩⟩

/-- Two numbers in a mixed base are compared by the greater parts and then by the smaller ones. -/
theorem mixed_lt_iff {base x y m n : Nat} (hm : m < base) (hn : n < base) :
    base * x + m < base * y + n ↔ x < y ∨ x = y ∧ m < n := by
  rcases Nat.lt_trichotomy x y with h | rfl | h
  · have hxy : base * (x + 1) ≤ base * y := Nat.mul_le_mul_left base h
    rw [Nat.mul_succ] at hxy
    omega
  · omega
  · have hyx : base * (y + 1) ≤ base * x := Nat.mul_le_mul_left base h
    rw [Nat.mul_succ] at hyx
    omega

/-- Runs of digits of one length order as the numbers that they denote. -/
theorem digits_lt_iff {ds es : List Char} (hds : ∀ c ∈ ds, c.isDigit) (hes : ∀ c ∈ es, c.isDigit)
    (hlen : ds.length = es.length) : ds < es ↔ value ds < value es := by
  induction ds generalizing es with
  | nil =>
    obtain rfl : es = [] := List.length_eq_zero_iff.1 hlen.symm
    simp
  | cons c ds ih =>
    cases es with
    | nil => cases hlen
    | cons e es =>
      have hlen' : ds.length = es.length := Nat.succ.inj hlen
      have hc := toNat_of_isDigit (hds c (List.mem_cons_self ..))
      have he := toNat_of_isDigit (hes e (List.mem_cons_self ..))
      have hds' : ∀ d ∈ ds, d.isDigit := fun d hd => hds d (List.mem_cons_of_mem c hd)
      have hes' : ∀ d ∈ es, d.isDigit := fun d hd => hes d (List.mem_cons_of_mem e hd)
      have hv : value ds < 10 ^ es.length := hlen' ▸ value_lt hds'
      have hv' : value es < 10 ^ es.length := value_lt hes'
      have hce : c < e ↔ c.toNat - '0'.toNat < e.toNat - '0'.toNat := by
        rw [Char.lt_def, UInt32.lt_iff_toNat_lt]
        exact (Nat.sub_lt_sub_iff_right hc.1).symm
      have hceq : c = e ↔ c.toNat - '0'.toNat = e.toNat - '0'.toNat := by
        rw [← Char.toNat_inj, show '0'.toNat = 48 from rfl]
        omega
      rw [List.cons_lt_cons_iff, ih hds' hes' hlen', value_cons, value_cons, hlen',
        mixed_lt_iff hv hv', hce, hceq]

/-- Numbers of the same width order as texts as they do as numbers. -/
theorem padded_append_lt_iff {width m n : Nat} {s t : List Char} (hw : 0 < width)
    (hm : m < 10 ^ width) (hn : n < 10 ^ width) :
    padded width m ++ s < padded width n ++ t ↔ m < n ∨ m = n ∧ s < t := by
  have hlen : (padded width m).length = (padded width n).length := by
    rw [length_padded hw hm, length_padded hw hn]
  have heq : padded width m = padded width n ↔ m = n := by
    refine ⟨fun h => ?_, fun h => by rw [h]⟩
    rw [← value_padded width m, h, value_padded]
  rw [append_lt_append_iff hlen, heq,
    digits_lt_iff (isDigit_of_mem_padded width m) (isDigit_of_mem_padded width n) hlen,
    value_padded, value_padded]

theorem padded_lt_padded_iff {width m n : Nat} (hw : 0 < width) (hm : m < 10 ^ width)
    (hn : n < 10 ^ width) : padded width m < padded width n ↔ m < n := by
  have happend : padded width m ++ [] < padded width n ++ [] ↔ m < n ∨ m = n ∧ [] < [] :=
    padded_append_lt_iff hw hm hn
  rw [List.append_nil, List.append_nil] at happend
  simpa using happend

/-! ### White space -/

theorem isBlank_of_isDigit {c : Char} (h : c.isDigit) : isBlank c = false := by
  have hc := toNat_of_isDigit h
  simp only [isBlank, Bool.or_eq_false_iff, Bool.and_eq_false_iff, decide_eq_false_iff_not,
    beq_eq_false_iff_ne]
  omega

theorem trimStart_cons {c : Char} (s : List Char) (h : isBlank c = false) :
    trimStart (c :: s) = c :: s :=
  List.dropWhile_cons_of_neg (by simp [h])

theorem trimStart_padded_append (width n : Nat) (rest : List Char) :
    trimStart (padded width n ++ rest) = padded width n ++ rest := by
  cases h : padded width n with
  | nil => exact absurd h (padded_ne_nil width n)
  | cons c ds =>
    have hc : c.isDigit := isDigit_of_mem_padded width n c (h ▸ List.mem_cons_self ..)
    exact trimStart_cons _ (isBlank_of_isDigit hc)

end VisitBooking.Text
