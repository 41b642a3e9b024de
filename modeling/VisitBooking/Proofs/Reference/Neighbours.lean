import Mathlib.Data.List.Forall2
import Mathlib.Data.Nat.Digits.Lemmas
import Mathlib.Data.ZMod.Basic
import VisitBooking.Proofs.Reference.Spelling

/-!
# References of neighbours

Two identities that follow one another have references that share no symbol, as long as the
references are of one length. Adding one lets the lowest digits of an identity carry over and makes
one digit grow, so that modulo the base each of these digits grows by one and no other digit
changes. What the scramble makes of that is told by the *gap* between its two shifts. Where a digit
grows by one, the gap goes from `g` to `10 * g + 3`, and the symbols differ by `g + 1`; after that
it goes from `g` to `10 * g`, and the symbols differ by `g`. So the symbols differ everywhere if `g
+ 1` does not vanish while the digits carry over, and `g` does not vanish at the end of that.

Starting from zero, both hold modulo 31 for as many digits as a reference of the built-in settings
can have: it is only after fifteen digits that the gap would close again.

## Main definitions

* `Increment`: the digits of a number and those of the next one.
* `gapAfter`: the gap after some digits that carry over.
* `Spreads`: no symbol stays the same.

## Main results

* `increment_of_ofDigits_eq`: adding one.
* `forall₂_scramble_ne`: no symbol stays the same under the scramble.
* `Codec.neighbours_share_no_symbol`: the headline.
-/

namespace VisitBooking.Reference

/-! ### Adding one -/

/-- Digits in a base, and those of the next number: the lowest ones carry over, one grows, and the
rest stays as it is. -/
inductive Increment (base : Nat) : List Nat → List Nat → Prop
  | grow (d : Nat) (ds : List Nat) : Increment base (d :: ds) ((d + 1) :: ds)
  | carry {ds es : List Nat} (h : Increment base ds es) :
      Increment base ((base - 1) :: ds) (0 :: es)

/-- The digits of a number and the next one, if they are equally many. -/
theorem increment_of_ofDigits_eq {base : Nat} (hb : 2 ≤ base) {ds es : List Nat}
    (hlen : ds.length = es.length) (hds : ∀ d ∈ ds, d < base) (hes : ∀ e ∈ es, e < base)
    (h : ofDigits base es = ofDigits base ds + 1) : Increment base ds es := by
  induction ds generalizing es with
  | nil =>
    obtain rfl : es = [] := List.length_eq_zero_iff.1 hlen.symm
    cases h
  | cons d ds ih =>
    cases es with
    | nil => cases hlen
    | cons e es =>
      have hrest : ds.length = es.length := Nat.succ.inj hlen
      rw [List.forall_mem_cons] at hds hes
      obtain ⟨hd, hds'⟩ := hds
      obtain ⟨he, hes'⟩ := hes
      rw [ofDigits, ofDigits] at h
      -- The last digit and the number above it, of the next number.
      have hlow : e = (d + base * ofDigits base ds + 1) % base := by
        rw [← h, Nat.add_mul_mod_self_left, Nat.mod_eq_of_lt he]
      have hhigh : ofDigits base es = (d + base * ofDigits base ds + 1) / base := by
        rw [← h, Nat.add_mul_div_left _ _ (by omega), Nat.div_eq_of_lt he, Nat.zero_add]
      by_cases hgrow : d + 1 < base
      · rw [Nat.add_right_comm] at hlow hhigh
        rw [Nat.add_mul_mod_self_left, Nat.mod_eq_of_lt hgrow] at hlow
        rw [Nat.add_mul_div_left _ _ (by omega), Nat.div_eq_of_lt hgrow, Nat.zero_add] at hhigh
        rw [hlow, eq_of_ofDigits_eq hb hrest.symm hes' hds' hhigh]
        exact .grow d ds
      · obtain rfl : d = base - 1 := by omega
        rw [show base - 1 + base * ofDigits base ds + 1 = base * (ofDigits base ds + 1) by
          rw [Nat.mul_succ]; omega] at hlow hhigh
        rw [Nat.mul_mod_right] at hlow
        rw [Nat.mul_div_cancel_left _ (by omega)] at hhigh
        rw [hlow]
        exact .carry (ih hrest hds' hes' hhigh)

/-! ### The gap between two shifts -/

theorem cast_symbol (base d shift : Nat) :
    (((d + shift) % base : Nat) : ZMod base) = d + shift := by
  rw [ZMod.natCast_mod, Nat.cast_add]

theorem cast_nextShift (base shift symbol position : Nat) :
    (nextShift base shift symbol position : ZMod base) =
      shift * 7 + symbol * 3 + position + 1 := by
  rw [nextShift, ZMod.natCast_mod]
  push_cast
  ring

/-- The symbols of two digits differ as the digits and the shifts do. -/
theorem symbol_sub_symbol (base d e shift shift' : Nat) :
    (((e + shift') % base : Nat) : ZMod base) - ((d + shift) % base : Nat) =
      (e - d) + (shift' - shift) := by
  rw [cast_symbol, cast_symbol]
  ring

/-- The gap after two digits. -/
theorem gap_nextShift (base d e shift shift' position : Nat) :
    (nextShift base shift' ((e + shift') % base) position : ZMod base) -
        nextShift base shift ((d + shift) % base) position =
      10 * (shift' - shift) + 3 * (e - d) := by
  rw [cast_nextShift, cast_nextShift, cast_symbol, cast_symbol]
  ring

/-- The gap after `count` digits that carry over. -/
def gapAfter (base : Nat) : Nat → ZMod base
  | 0 => 0
  | count + 1 => 10 * gapAfter base count + 3

/-- In references of `len` symbols in this base, no symbol of an identity is that of the next one:
the gap can be told from the one before, and it closes neither where a digit grows nor after that.
-/
structure Spreads (base len : Nat) : Prop where
  isUnit_ten : IsUnit (10 : ZMod base)
  grows : ∀ count < len, gapAfter base count + 1 ≠ 0
  stays : ∀ count < len, gapAfter base (count + 1) ≠ 0

theorem ne_of_cast_sub_ne_zero {base a b : Nat} (h : (b : ZMod base) - a ≠ 0) : a ≠ b := by
  rintro rfl
  exact h (sub_self _)

/-- Once there is a gap, the same digits get different symbols. -/
theorem forall₂_scrambleFrom_ne_of_gap {base shift shift' : Nat} (hunit : IsUnit (10 : ZMod base))
    (hgap : (shift' : ZMod base) - shift ≠ 0) (position : Nat) (ds : List Nat) :
    List.Forall₂ (· ≠ ·) (scrambleFrom base shift position ds)
      (scrambleFrom base shift' position ds) := by
  induction ds generalizing shift shift' position with
  | nil => exact .nil
  | cons d ds ih =>
    have hsymbol : (((d + shift') % base : Nat) : ZMod base) - ((d + shift) % base : Nat) ≠ 0 := by
      rwa [symbol_sub_symbol, sub_self, zero_add]
    refine .cons (ne_of_cast_sub_ne_zero hsymbol) (ih ?_ (position + 1))
    rw [gap_nextShift, sub_self, mul_zero, add_zero]
    exact fun hzero => hgap ((hunit.mul_right_eq_zero).1 hzero)

/-- The digits of a number and of the next one get different symbols, if the gap is the one after as
many digits that carried over as come before. -/
theorem Increment.forall₂_scrambleFrom_ne {base len : Nat} (hb : 0 < base)
    (hspreads : Spreads base len) {ds es : List Nat} (h : Increment base ds es)
    {shift shift' position : Nat} (hgap : (shift' : ZMod base) - shift = gapAfter base position)
    (hroom : position + ds.length ≤ len) :
    List.Forall₂ (· ≠ ·) (scrambleFrom base shift position ds)
      (scrambleFrom base shift' position es) := by
  induction h generalizing shift shift' position with
  | grow d ds =>
    rw [List.length_cons] at hroom
    have hgrows : ((d + 1 : Nat) : ZMod base) - d = 1 := by
      rw [Nat.cast_succ, add_sub_cancel_left]
    have hsymbol : (((d + 1 + shift') % base : Nat) : ZMod base) - ((d + shift) % base : Nat) ≠
        0 := by
      rw [symbol_sub_symbol, hgrows, hgap, add_comm]
      exact hspreads.grows position (by omega)
    refine .cons (ne_of_cast_sub_ne_zero hsymbol)
      (forall₂_scrambleFrom_ne_of_gap hspreads.isUnit_ten ?_ (position + 1) ds)
    rw [gap_nextShift, hgrows, hgap, mul_one]
    exact hspreads.stays position (by omega)
  | @carry ds es _ ih =>
    rw [List.length_cons] at hroom
    have hgrows : ((0 : Nat) : ZMod base) - (base - 1 : Nat) = 1 := by
      rw [Nat.cast_pred hb, ZMod.natCast_self, Nat.cast_zero]
      ring
    have hsymbol : (((0 + shift') % base : Nat) : ZMod base) -
        ((base - 1 + shift) % base : Nat) ≠ 0 := by
      rw [symbol_sub_symbol, hgrows, hgap, add_comm]
      exact hspreads.grows position (by omega)
    refine .cons (ne_of_cast_sub_ne_zero hsymbol) (ih ?_ (by omega))
    rw [gap_nextShift, hgrows, hgap, mul_one]
    rfl

/-- Both runs of the scramble begin with the same shift, if the digits are equally many. -/
theorem forall₂_scramble_ne {base len : Nat} (hb : 2 ≤ base) (hspreads : Spreads base len)
    {ds es : List Nat} (hlen : ds.length = es.length) (hroom : ds.length ≤ len)
    (hds : ∀ d ∈ ds, d < base) (hes : ∀ e ∈ es, e < base)
    (h : ofDigits base es = ofDigits base ds + 1) :
    List.Forall₂ (· ≠ ·) (scramble base ds) (scramble base es) := by
  rw [scramble, scramble, ← hlen]
  have hincrement := increment_of_ofDigits_eq hb hlen hds hes h
  exact hincrement.forall₂_scrambleFrom_ne (by omega) hspreads (sub_self _) (by omega)

/-! ### Positions in a reference -/

/-- Delimiters stand in the same places in texts of the same length, so a relation between the
characters in one place survives. -/
theorem forall₂_separate {R : Char → Char → Prop} (size : Nat) (delimiter : Option Char)
    (index : Nat) {xs ys : List Char} (h : List.Forall₂ R xs ys) :
    List.Forall₂ (fun x y => R x y ∨ some x = delimiter ∧ x = y)
      (separate size delimiter index xs) (separate size delimiter index ys) := by
  induction h generalizing index with
  | nil => exact .nil
  | @cons x y xs ys hxy _ ih =>
    have hrest : List.Forall₂ (fun x y => R x y ∨ some x = delimiter ∧ x = y)
        (x :: separate size delimiter (index + 1) xs)
        (y :: separate size delimiter (index + 1) ys) := .cons (.inl hxy) (ih (index + 1))
    rw [separate, separate]
    split
    · cases delimiter with
      | none => exact hrest
      | some d => exact .cons (.inr ⟨rfl, rfl⟩) hrest
    · exact hrest

/-- As many delimiters are put in as the number of characters tells. -/
theorem length_eq_of_length_separate_eq {size : Nat} {delimiter : Option Char} {index : Nat}
    {xs ys : List Char} (h : (separate size delimiter index xs).length =
      (separate size delimiter index ys).length) : xs.length = ys.length := by
  induction xs generalizing index ys with
  | nil =>
    cases ys with
    | nil => rfl
    | cons y ys =>
      rw [separate, separate, List.length_append, List.length_cons, List.length_nil] at h
      omega
  | cons x xs ih =>
    cases ys with
    | nil =>
      rw [separate, separate, List.length_append, List.length_cons, List.length_nil] at h
      omega
    | cons y ys =>
      rw [separate, separate, List.length_append, List.length_append, List.length_cons,
        List.length_cons] at h
      have hrest : (separate size delimiter (index + 1) xs).length =
          (separate size delimiter (index + 1) ys).length := by omega
      rw [List.length_cons, List.length_cons, ih hrest]

namespace Codec

variable (c : Codec)

/-- Different symbols have different characters. -/
theorem char_inj {s t : Nat} (hs : s < c.base) (ht : t < c.base) (h : c.char s = c.char t) :
    s = t := by
  rw [← c.idxOf_char hs, h, c.idxOf_char ht]

theorem length_symbols_eq_of_length_encode_eq {a b : Nat}
    (h : (c.encode a).length = (c.encode b).length) :
    (c.symbols a).length = (c.symbols b).length := by
  rw [← String.length_toList, ← String.length_toList, c.toList_encode, c.toList_encode] at h
  have hlen := length_eq_of_length_separate_eq h
  rwa [List.length_map, List.length_map, List.length_reverse, List.length_reverse] at hlen

/-- The symbols of an identity and of the next one, if they are equally many. -/
theorem forall₂_symbols_ne {len id : Nat} (hspreads : Spreads c.base len)
    (hlen : (c.symbols id).length = (c.symbols (id + 1)).length)
    (hroom : (c.symbols id).length ≤ len) :
    List.Forall₂ (· ≠ ·) (c.symbols id) (c.symbols (id + 1)) := by
  have hdigits : ∀ n, ∀ d ∈ padTo (c.tokenLength (digits c.base n).length) (digits c.base n),
      d < c.base :=
    fun n => lt_of_mem_padTo c.base_pos _ (lt_of_mem_digits c.two_le_length)
  rw [c.symbols_eq, c.symbols_eq, length_scramble, length_scramble] at hlen
  rw [c.symbols_eq, length_scramble] at hroom
  have hb : 2 ≤ c.base := c.two_le_length
  rw [c.symbols_eq, c.symbols_eq]
  refine forall₂_scramble_ne hb hspreads hlen hroom (hdigits id) (hdigits (id + 1)) ?_
  rw [ofDigits_padTo, ofDigits_padTo, ofDigits_digits, ofDigits_digits]

/-- Where the references of two identities have different symbols, they have different characters,
and everywhere else they have the delimiter. -/
theorem forall₂_encode_ne {a b : Nat} (h : List.Forall₂ (· ≠ ·) (c.symbols a) (c.symbols b)) :
    List.Forall₂ (fun x y => (x ≠ y ∧ some x ≠ c.delimiter ∧ some y ≠ c.delimiter) ∨
      some x = c.delimiter ∧ x = y) (c.encode a).toList (c.encode b).toList := by
  rw [c.toList_encode, c.toList_encode]
  refine forall₂_separate c.chunkSize c.delimiter 0 ?_
  rw [List.forall₂_map_left_iff, List.forall₂_map_right_iff]
  refine List.rel_reverse ?_
  -- Membership tells that the symbols are below the base.
  have hlt : List.Forall₂ (fun s t => s < c.base ∧ t < c.base ∧ s ≠ t) (c.symbols a)
      (c.symbols b) := by
    rw [List.forall₂_iff_get] at h ⊢
    exact ⟨h.1, fun i ha hb => ⟨c.lt_of_mem_symbols a _ (List.get_mem _ _),
      c.lt_of_mem_symbols b _ (List.get_mem _ _), h.2 i ha hb⟩⟩
  refine hlt.imp fun s t ⟨hs, ht, hne⟩ => ?_
  exact ⟨fun heq => hne (c.char_inj hs ht heq), c.some_char_ne_delimiter hs,
    c.some_char_ne_delimiter ht⟩

/-! ### The built-in settings -/

/-- Modulo 31 the gap does not close within fourteen digits. -/
theorem spreads_standard : Spreads standard.base 14 where
  isUnit_ten := (by decide : IsUnit (10 : ZMod 31))
  grows := (by decide : ∀ count < 14, gapAfter 31 count + 1 ≠ 0)
  stays := (by decide : ∀ count < 14, gapAfter 31 (count + 1) ≠ 0)

/-- References of the built-in settings have at most fourteen symbols. -/
theorem length_symbols_standard {id : Nat} (h : id < identityBound) :
    (standard.symbols id).length ≤ 14 := by
  have hb : 2 ≤ standard.base := standard.two_le_length
  have hpow : id < 31 ^ 13 := Nat.lt_trans h (by decide)
  have hdigits : (Nat.digits 31 id).length ≤ 13 := (Nat.digits_length_le_iff (by decide) id).2 hpow
  have hlen : (digits standard.base id).length ≤ 13 := by
    rw [length_digits hb]
    exact Nat.max_le.2 ⟨by decide, hdigits⟩
  rw [standard.length_symbols]
  exact (standard.isLeast_tokenLength _).2 ⟨by decide, Nat.max_le.2 ⟨by decide, by omega⟩⟩

/-- **Neighbours share no symbol.** If the references of an identity and of the next one, under the
built-in settings, have the same length, then they have a delimiter in the same positions and
different symbols in all others. -/
theorem neighbours_share_no_symbol {id : Nat} (hid : id + 1 < identityBound)
    (hlen : (standard.encode id).length = (standard.encode (id + 1)).length) (position : Nat)
    (x y : Char) (hx : (standard.encode id).toList[position]? = some x)
    (hy : (standard.encode (id + 1)).toList[position]? = some y) :
    (x = '-' ↔ y = '-') ∧ (x ≠ '-' → x ≠ y) := by
  have hsymbols := standard.length_symbols_eq_of_length_encode_eq hlen
  have hroom : (standard.symbols id).length ≤ 14 := length_symbols_standard (Nat.lt_of_succ_lt hid)
  have hne := standard.forall₂_symbols_ne spreads_standard hsymbols hroom
  obtain ⟨hxpos, rfl⟩ := List.getElem?_eq_some_iff.1 hx
  obtain ⟨hypos, rfl⟩ := List.getElem?_eq_some_iff.1 hy
  have hdelimiter : standard.delimiter = some '-' := rfl
  rcases (standard.forall₂_encode_ne hne).get hxpos hypos with ⟨hxy, hx', hy'⟩ | ⟨hx', hxy⟩
  · rw [hdelimiter, ne_eq, Option.some_inj] at hx' hy'
    exact ⟨iff_of_false hx' hy', fun _ => hxy⟩
  · rw [hdelimiter, Option.some_inj] at hx'
    exact ⟨iff_of_true hx' (hxy.symm.trans hx'), fun h => absurd hx' h⟩

/-- All digits but the first carry over, and the references differ in their last symbol too. -/
theorem neighbours_share_no_symbol_carry :
    let id := 31 ^ 7 - 1
    id + 1 < identityBound ∧
      (standard.encode id).length = (standard.encode (id + 1)).length ∧
      (standard.encode id).toList[10]? = some '9' ∧
      (standard.encode (id + 1)).toList[10]? = some 'a' ∧ ('9' ≠ '-' → '9' ≠ 'a') := by
  intro id
  have hlen : (standard.encode id).length = (standard.encode (id + 1)).length := by
    decide +kernel
  have hx : (standard.encode id).toList[10]? = some '9' := by decide +kernel
  have hy : (standard.encode (id + 1)).toList[10]? = some 'a' := by decide +kernel
  exact ⟨by decide, hlen, hx, hy,
    (neighbours_share_no_symbol (by decide) hlen 10 '9' 'a' hx hy).2⟩

end Codec

end VisitBooking.Reference
