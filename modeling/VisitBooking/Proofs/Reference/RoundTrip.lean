import Mathlib.Data.List.GetD
import Mathlib.Data.List.Nodup
import VisitBooking.Reference.Codec

/-!
# References and identities are in one-to-one correspondence

Writing an identity goes through four steps: digits, zeros up to the length, the scramble, the
characters with delimiters. Reading goes back through them one by one, so a reference that was
written is read as its identity. The last check of `Scheme.decode`, that the identity is written the
same way again, makes it accept nothing else. Both together say that `decode` is the partial inverse
of `encode`.

The products and sums on the way of `identityOf?` only grow, so they stay identities as long as the
result does: the checks on the way refuse a number exactly if it is no identity.

## Main results

* `identityOf?_eq_some_iff`: the checks on the way are one check at the end.
* `Codec.symbolsOf?_encode`: the symbols of a reference are those it was written with.
* `Codec.decode_eq_ok_iff`, `Codec.encode_injective`.
* `Codec.decode_inverts_encode`: the correspondence as a whole.
-/

namespace VisitBooking.Reference

/-! ### Digits and symbols stay below the base -/

theorem lt_of_mem_padTo {base : Nat} (hb : 0 < base) (len : Nat) {ds : List Nat}
    (hds : ∀ d ∈ ds, d < base) : ∀ d ∈ padTo len ds, d < base := by
  intro d hd
  rcases List.mem_append.1 hd with h | h
  · exact hds d h
  · rw [List.eq_of_mem_replicate h]
    exact hb

theorem lt_of_mem_scrambleFrom {base : Nat} (hb : 0 < base) (shift position : Nat)
    (ds : List Nat) : ∀ s ∈ scrambleFrom base shift position ds, s < base := by
  induction ds generalizing shift position with
  | nil => simp [scrambleFrom]
  | cons d ds ih =>
    intro s hs
    rw [scrambleFrom] at hs
    rcases List.mem_cons.1 hs with rfl | hs
    · exact Nat.mod_lt _ hb
    · exact ih _ _ s hs

theorem lt_of_mem_scramble {base : Nat} (hb : 0 < base) (ds : List Nat) :
    ∀ s ∈ scramble base ds, s < base :=
  lt_of_mem_scrambleFrom hb _ _ ds

theorem unscramble_scramble {base : Nat} (hb : 0 < base) {ds : List Nat}
    (hds : ∀ d ∈ ds, d < base) : unscramble base (scramble base ds) = ds := by
  rw [unscramble, length_scramble, scramble]
  exact unscrambleFrom_scrambleFrom 0 (Nat.mod_lt _ hb) hds

/-! ### Checked arithmetic -/

theorem identity?_eq_some_iff {n m : Nat} : identity? n = some m ↔ n = m ∧ n < identityBound := by
  unfold identity?
  split <;> simp [*]

/-- The checks on the way refuse a number exactly if it is no identity: the number with the digits
read so far never exceeds the number with all of them. -/
theorem identityOf?_eq_some_iff {base : Nat} (hb : 0 < base) (ds : List Nat) (n : Nat) :
    identityOf? base ds = some n ↔ ofDigits base ds = n ∧ n < identityBound := by
  induction ds generalizing n with
  | nil =>
    have h0 : 0 < identityBound := by decide
    simp only [identityOf?, ofDigits, Option.some.injEq]
    exact ⟨fun h => ⟨h, h ▸ h0⟩, fun h => h.1⟩
  | cons d ds ih =>
    simp only [identityOf?, ofDigits, Option.bind_eq_bind, Option.bind_eq_some_iff, ih,
      identity?_eq_some_iff]
    constructor
    · rintro ⟨high, ⟨rfl, -⟩, _, ⟨rfl, -⟩, rfl, hn⟩
      exact ⟨by rw [Nat.add_comm, Nat.mul_comm], hn⟩
    · rintro ⟨rfl, hn⟩
      have hle : ofDigits base ds ≤ base * ofDigits base ds := Nat.le_mul_of_pos_left _ hb
      have hcomm : ofDigits base ds * base = base * ofDigits base ds := Nat.mul_comm ..
      exact ⟨_, ⟨rfl, by omega⟩, _, ⟨rfl, by omega⟩, by omega, by omega⟩

/-! ### Delimiters -/

/-- Leaving the delimiter out takes back what `separate` has put in. -/
theorem filter_separate (size : Nat) (delimiter : Option Char) (index : Nat) {cs : List Char}
    (h : ∀ x ∈ cs, some x ≠ delimiter) :
    (separate size delimiter index cs).filter (fun x => some x ≠ delimiter) = cs := by
  induction cs generalizing index with
  | nil => rfl
  | cons x cs ih =>
    have hx : some x ≠ delimiter := h x (List.mem_cons_self ..)
    have hrest := ih (index + 1) fun y hy => h y (List.mem_cons_of_mem _ hy)
    have hfront : (if 0 < index ∧ index % size = 0 then delimiter.toList else []).filter
        (fun x => some x ≠ delimiter) = [] := by
      split
      · cases delimiter <;> simp
      · rfl
    rw [separate, List.filter_append, hfront, List.nil_append,
      List.filter_cons_of_pos (by simpa using hx), hrest]

namespace Codec

variable (c : Codec)

theorem base_pos : 0 < c.base := Nat.lt_of_lt_of_le Nat.zero_lt_two c.two_le_length

/-! ### Symbols of an identity -/

theorem lt_of_mem_symbols (id : Nat) : ∀ s ∈ c.symbols id, s < c.base :=
  lt_of_mem_scramble c.base_pos _

theorem symbols_ne_nil (id : Nat) : c.symbols id ≠ [] := by
  have hlen : (c.symbols id).length ≠ 0 := by
    have := List.length_pos_iff.2 (digits_ne_nil c.base id)
    rw [c.symbols_eq, length_scramble, length_padTo]
    omega
  exact fun h => hlen (by simp [h])

/-- The digits under the symbols of an identity are those of the identity. -/
theorem ofDigits_unscramble_symbols (id : Nat) :
    ofDigits c.base (unscramble c.base (c.symbols id)) = id := by
  have hds : ∀ d ∈ digits c.base id, d < c.base := lt_of_mem_digits c.two_le_length
  rw [c.symbols_eq, unscramble_scramble c.base_pos (lt_of_mem_padTo c.base_pos _ hds),
    ofDigits_padTo, ofDigits_digits]

/-! ### Symbols and characters -/

theorem char_eq_get {s : Nat} (hs : s < c.base) : c.char s = c.alphabet.get ⟨s, hs⟩ :=
  List.getD_eq_getElem _ _ hs

theorem char_mem {s : Nat} (hs : s < c.base) : c.char s ∈ c.alphabet := by
  rw [c.char_eq_get hs]
  exact List.getElem_mem hs

theorem some_char_ne_delimiter {s : Nat} (hs : s < c.base) : some (c.char s) ≠ c.delimiter :=
  fun h => c.delimiter_not_mem _ h.symm (c.char_mem hs)

/-- The characters of the alphabet differ, so a character tells its symbol. -/
theorem idxOf?_char {s : Nat} (hs : s < c.base) : c.alphabet.idxOf? (c.char s) = some s := by
  rw [c.char_eq_get hs]
  refine List.findIdx?_eq_some_iff_getElem.2 ⟨hs, beq_self_eq_true _, fun i his heq => ?_⟩
  exact Nat.ne_of_lt his (c.nodup.getElem_inj_iff.1 (eq_of_beq heq))

theorem mapM_idxOf?_char {symbols : List Nat} (h : ∀ s ∈ symbols, s < c.base) :
    (symbols.map c.char).mapM (fun x => c.alphabet.idxOf? x) = some symbols := by
  induction symbols with
  | nil => rfl
  | cons s symbols ih =>
    have hs : s < c.base := h s (List.mem_cons_self ..)
    rw [List.map_cons, List.mapM_cons, c.idxOf?_char hs,
      ih fun t ht => h t (List.mem_cons_of_mem _ ht)]
    rfl

/-- The symbols of a reference are those it was written with. -/
theorem symbolsOf?_encode (id : Nat) : c.symbolsOf? (c.encode id) = some (c.symbols id) := by
  have hsymbols : ∀ x ∈ (c.symbols id).reverse.map c.char, some x ≠ c.delimiter := by
    intro x hx
    obtain ⟨s, hs, rfl⟩ := List.mem_map.1 hx
    exact c.some_char_ne_delimiter (c.lt_of_mem_symbols id s (List.mem_reverse.1 hs))
  rw [Scheme.symbolsOf?, Scheme.encode, String.toList_ofList, List.filter_reverse,
    filter_separate _ _ _ hsymbols, ← List.map_reverse, List.reverse_reverse]
  exact c.mapM_idxOf?_char (c.lt_of_mem_symbols id)

/-! ### The correspondence -/

theorem identityOf?_unscramble_symbols {id n : Nat} :
    identityOf? c.base (unscramble c.base (c.symbols id)) = some n ↔
      id = n ∧ n < identityBound := by
  rw [identityOf?_eq_some_iff c.base_pos, c.ofDigits_unscramble_symbols]

theorem decode_encode {id : Nat} (h : id < identityBound) : c.decode (c.encode id) = .ok id := by
  have hid : identityOf? c.base (unscramble c.base (c.symbols id)) = some id :=
    c.identityOf?_unscramble_symbols.2 ⟨rfl, h⟩
  unfold Scheme.decode
  rw [c.symbolsOf?_encode]
  cases hs : c.symbols id with
  | nil => exact absurd hs (c.symbols_ne_nil id)
  | cons s ss =>
    rw [hs] at hid
    simp only [hid, if_true]

/-- A text that is read as an identity is below the bound and is written in no other way. -/
theorem encode_of_decode {id : Nat} {token : String} (h : c.decode token = .ok id) :
    id < identityBound ∧ c.encode id = token := by
  unfold Scheme.decode at h
  split at h
  · cases h
  · cases h
  · rename_i symbols _ _
    split at h
    · cases h
    · rename_i n hn
      split at h
      · rename_i henc
        cases h
        exact ⟨((identityOf?_eq_some_iff c.base_pos _ _).1 hn).2, henc⟩
      · cases h

theorem decode_eq_ok_iff {id : Nat} {token : String} :
    c.decode token = .ok id ↔ id < identityBound ∧ c.encode id = token :=
  ⟨c.encode_of_decode, fun ⟨h, he⟩ => he ▸ c.decode_encode h⟩

/-- A text is refused with the text itself, whatever the reason. -/
theorem eq_of_decode_eq_error {token : String} {e : InvalidToken} (h : c.decode token = .error e) :
    e = ⟨token⟩ := by
  unfold Scheme.decode at h
  split at h
  · cases h; rfl
  · cases h; rfl
  · split at h
    · cases h; rfl
    · split at h <;> cases h
      rfl

theorem decode_eq_error_iff {token : String} :
    c.decode token = .error ⟨token⟩ ↔ ∀ id < identityBound, c.encode id ≠ token := by
  constructor
  · rintro h id hid rfl
    rw [c.decode_encode hid] at h
    cases h
  · intro h
    cases hd : c.decode token with
    | ok id => exact absurd (c.encode_of_decode hd).2 (h id (c.encode_of_decode hd).1)
    | error e => rw [c.eq_of_decode_eq_error hd]

/-- References of different identities differ, whether or not they can be read. -/
theorem encode_injective : Function.Injective c.encode := by
  intro a b h
  have hsymbols : c.symbols a = c.symbols b := by
    rw [← Option.some_inj, ← c.symbolsOf?_encode, h, c.symbolsOf?_encode]
  rw [← c.ofDigits_unscramble_symbols a, hsymbols, c.ofDigits_unscramble_symbols]

/-- **References and identities are in one-to-one correspondence.** Exactly the references of
identities are read, each as its own identity; the checked arithmetic goes through on all of them;
and any other text is refused. -/
theorem decode_inverts_encode :
    (∀ id token, c.decode token = .ok id ↔ id < identityBound ∧ c.encode id = token) ∧
    (∀ id, identityOf? c.base (unscramble c.base (c.symbols id)) = some id ↔ id < identityBound) ∧
    Function.Injective c.encode ∧
    ∀ token, c.decode token = .error ⟨token⟩ ↔ ∀ id < identityBound, c.encode id ≠ token :=
  ⟨fun _ _ => c.decode_eq_ok_iff,
    fun _ => c.identityOf?_unscramble_symbols.trans (and_iff_right rfl),
    c.encode_injective, fun _ => c.decode_eq_error_iff⟩

/-- The greatest identity has a reference too. -/
example : Codec.standard.decode "ej-39-kj-jf-qg-zx-8y" = .ok (identityBound - 1) := by
  decide +kernel

end Codec

end VisitBooking.Reference
