import Mathlib.Data.List.DropRight
import Mathlib.Data.Nat.Digits.Lemmas
import Mathlib.Data.Set.Function
import VisitBooking.Proofs.Reference.Spelling

/-!
# The scramble keeps beginnings

The scramble runs from the least significant digit upwards and never looks ahead. So what it makes
of the first digits is not changed by those after them, and as it can be undone, symbols that begin
alike come from digits that do. This takes no property of the base: a shift is taken back in every
base, and the accumulators of both sides are the same because they are made from the same symbols.

The accumulator starts from the number of digits. Therefore the two lists have to be equally long;
for references this is so just if the texts are.

A reference is written from its most significant symbol on, so the first digits of an identity are
under the last symbols of its reference.

## Main definitions

* `DigitsOfLength`: lists of digits, of a given length.
* `Codec.symbolChars`: the symbols of a text.

## Main results

* `bijOn_scramble`: the scramble on lists of each length.
* `take_scramble_eq_iff`: beginnings of digits and of symbols.
* `Codec.rtake_symbolChars_eq_iff`: endings of references and remainders of identities.
* `scramble_keeps_beginnings`: the headline.
-/

namespace VisitBooking.Reference

/-! ### Lists of each length -/

/-- The lists of `len` digits in a base. -/
def DigitsOfLength (base len : Nat) : Set (List Nat) := {ds | ds.length = len ∧ ∀ d ∈ ds, d < base}

section

variable {base : Nat} (hb : 0 < base) (len : Nat)

include hb

theorem mapsTo_scramble :
    Set.MapsTo (scramble base) (DigitsOfLength base len) (DigitsOfLength base len) :=
  fun ds hds => ⟨(length_scramble base ds).trans hds.1, lt_of_mem_scramble hb ds⟩

theorem mapsTo_unscramble :
    Set.MapsTo (unscramble base) (DigitsOfLength base len) (DigitsOfLength base len) :=
  fun ss hss => ⟨(length_unscramble base ss).trans hss.1, lt_of_mem_unscramble hb ss⟩

/-- Each of the two directions undoes the other. -/
theorem invOn_unscramble_scramble :
    Set.InvOn (unscramble base) (scramble base) (DigitsOfLength base len)
      (DigitsOfLength base len) :=
  ⟨fun _ hds => unscramble_scramble hb hds.2, fun _ hss => scramble_unscramble hb hss.2⟩

theorem bijOn_scramble :
    Set.BijOn (scramble base) (DigitsOfLength base len) (DigitsOfLength base len) :=
  (invOn_unscramble_scramble hb len).bijOn (mapsTo_scramble hb len) (mapsTo_unscramble hb len)

end

/-! ### Beginnings -/

/-- What is made of the first digits does not depend on those after them. -/
theorem take_scrambleFrom (base shift position k : Nat) (ds : List Nat) :
    (scrambleFrom base shift position ds).take k =
      scrambleFrom base shift position (ds.take k) := by
  induction ds generalizing shift position k with
  | nil => rw [List.take_nil, scrambleFrom, List.take_nil]
  | cons d ds ih =>
    cases k with
    | zero => rfl
    | succ k => rw [scrambleFrom, List.take_succ_cons, List.take_succ_cons, scrambleFrom, ih]

/-- From the same shift, digits get the same symbols only if they are the same. -/
theorem scrambleFrom_inj {base shift position : Nat} (hs : shift < base) {ds es : List Nat}
    (hds : ∀ d ∈ ds, d < base) (hes : ∀ e ∈ es, e < base) :
    scrambleFrom base shift position ds = scrambleFrom base shift position es ↔ ds = es := by
  refine ⟨fun h => ?_, fun h => h ▸ rfl⟩
  have hback := unscrambleFrom_scrambleFrom position hs hds
  rw [h, unscrambleFrom_scrambleFrom position hs hes] at hback
  exact hback.symm

/-- Lists of one length begin alike just if their scrambles do. -/
theorem take_scramble_eq_iff {base : Nat} (hb : 0 < base) {ds es : List Nat}
    (hlen : ds.length = es.length) (hds : ∀ d ∈ ds, d < base) (hes : ∀ e ∈ es, e < base)
    (k : Nat) : (scramble base ds).take k = (scramble base es).take k ↔ ds.take k = es.take k := by
  rw [scramble, scramble, hlen, take_scrambleFrom, take_scrambleFrom]
  exact scrambleFrom_inj (Nat.mod_lt _ hb) (fun d hd => hds d (List.mem_of_mem_take hd))
    fun e he => hes e (List.mem_of_mem_take he)

/-- The first digits of a number are those of its remainder. -/
theorem ofDigits_take {base : Nat} (hb : 0 < base) {ds : List Nat} (hds : ∀ d ∈ ds, d < base)
    (k : Nat) : ofDigits base (ds.take k) = ofDigits base ds % base ^ k := by
  rw [ofDigits_eq, ofDigits_eq]
  exact (Nat.ofDigits_mod_pow_eq_ofDigits_take k hb ds hds).symm

/-! ### Texts of one length -/

/-- More characters make a longer text. -/
theorem length_separate_lt (size : Nat) (delimiter : Option Char) (index : Nat)
    {xs ys : List Char} (h : xs.length < ys.length) :
    (separate size delimiter index xs).length < (separate size delimiter index ys).length := by
  induction xs generalizing index ys with
  | nil =>
    cases ys with
    | nil => cases h
    | cons y ys =>
      rw [separate, separate, List.length_append, List.length_cons, List.length_nil]
      omega
  | cons x xs ih =>
    cases ys with
    | nil => cases h
    | cons y ys =>
      have hrest := ih (index + 1) (Nat.lt_of_succ_lt_succ h)
      rw [separate, separate, List.length_append, List.length_append, List.length_cons,
        List.length_cons]
      omega

/-- Equally many characters make texts of one length. -/
theorem length_separate_congr (size : Nat) (delimiter : Option Char) (index : Nat)
    {xs ys : List Char} (h : xs.length = ys.length) :
    (separate size delimiter index xs).length = (separate size delimiter index ys).length := by
  induction xs generalizing index ys with
  | nil => rw [List.length_eq_zero_iff.1 h.symm]
  | cons x xs ih =>
    cases ys with
    | nil => cases h
    | cons y ys =>
      rw [separate, separate, List.length_append, List.length_append, List.length_cons,
        List.length_cons, ih (index + 1) (Nat.succ.inj h)]

namespace Codec

variable (c : Codec)

theorem length_encode (id : Nat) : (c.encode id).length =
    (separate c.chunkSize c.delimiter 0 ((c.symbols id).reverse.map c.char)).length := by
  rw [← String.length_toList, c.toList_encode]

/-- References are equally long just if they have equally many symbols. -/
theorem length_encode_eq_iff {a b : Nat} :
    (c.encode a).length = (c.encode b).length ↔
      (c.symbols a).length = (c.symbols b).length := by
  have hlen (id : Nat) : ((c.symbols id).reverse.map c.char).length = (c.symbols id).length := by
    rw [List.length_map, List.length_reverse]
  rw [c.length_encode, c.length_encode]
  refine ⟨fun h => ?_, fun h => length_separate_congr _ _ _ (by rw [hlen, hlen, h])⟩
  rcases Nat.lt_trichotomy (c.symbols a).length (c.symbols b).length with hlt | heq | hgt
  · exact absurd h (Nat.ne_of_lt (length_separate_lt _ _ _ (by rwa [hlen, hlen])))
  · exact heq
  · exact absurd h (Nat.ne_of_gt (length_separate_lt _ _ _ (by rwa [hlen, hlen])))

/-! ### Endings of references -/

/-- The symbols of a text, as they are written: all but the delimiters. -/
def symbolChars (c : Codec) (token : String) : List Char :=
  token.toList.filter fun x => some x ≠ c.delimiter

theorem symbolChars_encode (id : Nat) :
    c.symbolChars (c.encode id) = (c.symbols id).reverse.map c.char := by
  rw [symbolChars, c.toList_encode]
  refine filter_separate _ _ _ fun x hx => ?_
  obtain ⟨s, hs, rfl⟩ := List.mem_map.1 hx
  exact c.some_char_ne_delimiter (c.lt_of_mem_symbols id s (List.mem_reverse.1 hs))

/-- The last symbols of a reference are written for the first of its scrambled digits. -/
theorem rtake_symbolChars_encode (id k : Nat) :
    (c.symbolChars (c.encode id)).rtake k = (((c.symbols id).take k).map c.char).reverse := by
  rw [symbolChars_encode, List.rtake_eq_reverse_take_reverse, ← List.map_reverse,
    List.reverse_reverse, List.map_take]

/-- Symbols are told apart by their characters. -/
theorem map_char_inj {ss ts : List Nat} (hss : ∀ s ∈ ss, s < c.base) (hts : ∀ t ∈ ts, t < c.base) :
    ss.map c.char = ts.map c.char ↔ ss = ts := by
  refine ⟨fun h => ?_, fun h => h ▸ rfl⟩
  rw [← c.map_idxOf_char hss, h, c.map_idxOf_char hts]

/-- References of one length end in the same symbols just if the identities leave the same
remainder. -/
theorem rtake_symbolChars_eq_iff {a b : Nat} (hlen : (c.encode a).length = (c.encode b).length)
    (k : Nat) :
    (c.symbolChars (c.encode a)).rtake k = (c.symbolChars (c.encode b)).rtake k ↔
      a % c.base ^ k = b % c.base ^ k := by
  -- The digits that are scrambled, filled up to the length of the reference.
  let filled (id : Nat) : List Nat :=
    padTo (c.tokenLength (digits c.base id).length) (digits c.base id)
  have hfilled (id : Nat) : ∀ d ∈ filled id, d < c.base :=
    lt_of_mem_padTo c.base_pos _ (lt_of_mem_digits c.two_le_length)
  have hscramble (id : Nat) : scramble c.base (filled id) = c.symbols id := (c.symbols_eq id).symm
  have hvalue (id : Nat) : ofDigits c.base (filled id) = id := by
    rw [ofDigits_padTo, ofDigits_digits]
  have hlength (id : Nat) : (filled id).length = (c.symbols id).length := by
    rw [← hscramble, length_scramble]
  have hsymbols : (c.symbols a).length = (c.symbols b).length := c.length_encode_eq_iff.1 hlen
  have htaken : ((filled a).take k).length = ((filled b).take k).length := by
    rw [List.length_take, List.length_take, hlength, hlength, hsymbols]
  have hlt (id : Nat) : ∀ d ∈ (filled id).take k, d < c.base :=
    fun d hd => hfilled id d (List.mem_of_mem_take hd)
  calc (c.symbolChars (c.encode a)).rtake k = (c.symbolChars (c.encode b)).rtake k
      ↔ (c.symbols a).take k = (c.symbols b).take k := by
        rw [rtake_symbolChars_encode, rtake_symbolChars_encode, List.reverse_inj]
        exact c.map_char_inj
          (fun s hs => c.lt_of_mem_symbols a s (List.mem_of_mem_take hs))
          fun s hs => c.lt_of_mem_symbols b s (List.mem_of_mem_take hs)
    _ ↔ (filled a).take k = (filled b).take k := by
        rw [← hscramble a, ← hscramble b]
        exact take_scramble_eq_iff c.base_pos (by rw [hlength, hlength, hsymbols]) (hfilled a)
          (hfilled b) k
    _ ↔ ofDigits c.base ((filled a).take k) = ofDigits c.base ((filled b).take k) :=
        ⟨fun h => by rw [h], eq_of_ofDigits_eq c.two_le_length htaken (hlt a) (hlt b)⟩
    _ ↔ a % c.base ^ k = b % c.base ^ k := by
        rw [ofDigits_take c.base_pos (hfilled a), ofDigits_take c.base_pos (hfilled b), hvalue,
          hvalue]

end Codec

/-! ### The headline -/

/-- **The scramble is a bijection that keeps beginnings.** In any base of at least two it takes the
lists of each length to lists of that length, on which it can be undone in both directions. Two
lists of one length begin with the same digits just if their scrambles begin with the same symbols.
So references of one length end in the same symbols just if the identities agree modulo a power of
the base. -/
theorem scramble_keeps_beginnings {base : Nat} (hb : 2 ≤ base) :
    (∀ len, Set.MapsTo (scramble base) (DigitsOfLength base len) (DigitsOfLength base len) ∧
      Set.MapsTo (unscramble base) (DigitsOfLength base len) (DigitsOfLength base len) ∧
      Set.InvOn (unscramble base) (scramble base) (DigitsOfLength base len)
        (DigitsOfLength base len) ∧
      Set.BijOn (scramble base) (DigitsOfLength base len) (DigitsOfLength base len)) ∧
    (∀ len, ∀ ds ∈ DigitsOfLength base len, ∀ es ∈ DigitsOfLength base len, ∀ k ≤ len,
      ds.take k = es.take k ↔ (scramble base ds).take k = (scramble base es).take k) ∧
    ∀ c : Codec, c.base = base → ∀ a b, (c.encode a).length = (c.encode b).length → ∀ k,
      (c.symbolChars (c.encode a)).rtake k = (c.symbolChars (c.encode b)).rtake k ↔
        a % base ^ k = b % base ^ k := by
  have hpos : 0 < base := by omega
  refine ⟨fun len => ?_, ?_, ?_⟩
  · exact ⟨mapsTo_scramble hpos len, mapsTo_unscramble hpos len,
      invOn_unscramble_scramble hpos len, bijOn_scramble hpos len⟩
  · rintro len ds ⟨hds, hds_lt⟩ es ⟨hes, hes_lt⟩ k -
    exact (take_scramble_eq_iff hpos (hds.trans hes.symm) hds_lt hes_lt k).symm
  · rintro c rfl a b hlen k
    exact c.rtake_symbolChars_eq_iff hlen k

/-- In base 21 neither of the factors of the accumulator can be undone. -/
theorem scramble_keeps_beginnings_base_twentyone :
    let c : Codec := ⟨⟨"abcdefghijklmnopqrstu".toList, 4, 2, some '-', by decide, by decide,
      by decide, by decide, by rintro _ ⟨⟩; decide⟩, by decide⟩
    (scramble 21 [3, 0, 20, 1]).take 2 = (scramble 21 [3, 0, 7, 1]).take 2 ∧
      (c.symbolChars (c.encode 5)).rtake 2 = (c.symbolChars (c.encode 446)).rtake 2 ∧
      (c.symbolChars (c.encode 5)).rtake 3 ≠ (c.symbolChars (c.encode 446)).rtake 3 := by
  intro c
  obtain ⟨-, htake, hending⟩ := scramble_keeps_beginnings (show 2 ≤ 21 by decide)
  have hlen : (c.encode 5).length = (c.encode 446).length := by decide +kernel
  refine ⟨?_, ?_, ?_⟩
  · exact (htake 4 [3, 0, 20, 1] ⟨rfl, by decide⟩ [3, 0, 7, 1] ⟨rfl, by decide⟩ 2 (by decide)).1 rfl
  · exact (hending c rfl 5 446 hlen 2).2 (by decide)
  · exact fun h => absurd ((hending c rfl 5 446 hlen 3).1 h) (by decide)

end VisitBooking.Reference
