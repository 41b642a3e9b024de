import Mathlib.Data.List.Basic
import VisitBooking.Text.Utf8

/-!
# Text and its bytes

The bytes of a text are read as that text. A character has one to four bytes, and the first of them
tells how many. What has to be shown for each width is that its bytes are let through, and that the
bits that they carry are those of the character.

## Main results

* `Utf8.front_two`, `Utf8.front_three`, `Utf8.front_four`: bytes that make up a character.
* `Utf8.text?_bytes`: a text is read back from its bytes.
-/

namespace VisitBooking.Text.Utf8

/-! ### The bytes of characters in a row -/

theorem toList_loop_eq (bs : ByteArray) (i : Nat) (acc : List UInt8) :
    ByteArray.toList.loop bs i acc = acc.reverse ++ bs.data.toList.drop i := by
  induction i, acc using ByteArray.toList.loop.induct bs with
  | case1 i acc h ih =>
    have hi : i < bs.data.toList.length := h
    rw [ByteArray.toList.loop, if_pos h, ih, List.drop_eq_getElem_cons hi]
    simp [ByteArray.get!, h]
  | case2 i acc h =>
    have hi : bs.data.toList.length ≤ i := Nat.le_of_not_lt h
    rw [ByteArray.toList.loop, if_neg h, List.drop_eq_nil_of_le hi, List.append_nil]

theorem bytes_ofList (s : List Char) :
    bytes (String.ofList s) = s.flatMap String.utf8EncodeChar := by
  rw [bytes, String.toUTF8, String.toByteArray_ofList, List.utf8Encode, ByteArray.toList,
    toList_loop_eq, List.toList_data_toByteArray]
  rfl

/-! ### Bytes that make up a character -/

variable {a b c d : UInt8}

theorem isContinuation_iff : isContinuation b = true ↔ 0x80 ≤ b.toNat ∧ b.toNat ≤ 0xBF := by
  simp [isContinuation, UInt8.le_iff_toNat_le]

theorem isSecond_of (hb : 0x80 ≤ b.toNat ∧ b.toNat ≤ 0xBF) (h0 : a.toNat = 0xE0 → 0xA0 ≤ b.toNat)
    (h1 : a.toNat = 0xED → b.toNat ≤ 0x9F) (h2 : a.toNat = 0xF0 → 0x90 ≤ b.toNat)
    (h3 : a.toNat = 0xF4 → b.toNat ≤ 0x8F) : isSecond a b = true := by
  unfold isSecond
  split
  · simpa [UInt8.le_iff_toNat_le, hb.2] using h0 (congrArg UInt8.toNat ‹_›)
  · split
    · simpa [UInt8.le_iff_toNat_le, hb.1] using h1 (congrArg UInt8.toNat ‹_›)
    · split
      · simpa [UInt8.le_iff_toNat_le, hb.2] using h2 (congrArg UInt8.toNat ‹_›)
      · split
        · simpa [UInt8.le_iff_toNat_le, hb.1] using h3 (congrArg UInt8.toNat ‹_›)
        · exact isContinuation_iff.2 hb

theorem between_iff {x y : UInt8} : (x ≤ a ∧ a ≤ y) ↔ x.toNat ≤ a.toNat ∧ a.toNat ≤ y.toNat :=
  and_congr UInt8.le_iff_toNat_le UInt8.le_iff_toNat_le

theorem not_between_of_lt {x y : UInt8} (h : y.toNat < a.toNat) : ¬ (x ≤ a ∧ a ≤ y) :=
  fun hle => Nat.not_le.2 h (between_iff.1 hle).2

theorem not_lt_of_toNat_le {x : UInt8} (h : x.toNat ≤ a.toNat) : ¬ a < x := by
  rw [UInt8.lt_iff_toNat_lt]
  exact Nat.not_lt.2 h

theorem front_one (ha : a.toNat < 0x80) (s : List UInt8) :
    front a s = (.char (Char.ofNat a.toNat), 1) := by
  have hlt : a < 0x80 := UInt8.lt_iff_toNat_lt.2 ha
  simp only [front, if_pos hlt]

theorem front_two (ha : 0xC2 ≤ a.toNat ∧ a.toNat ≤ 0xDF) (hb : isContinuation b = true)
    (s : List UInt8) :
    front a (b :: s) = (.char (Char.ofNat (a.toNat % 32 * 64 + lowBits b)), 2) := by
  have h1 : ¬ a < 0x80 := not_lt_of_toNat_le (Nat.le_trans (by decide) ha.1)
  have h2 : 0xC2 ≤ a ∧ a ≤ 0xDF := between_iff.2 ha
  simp only [front, if_neg h1, if_pos h2, hb, if_true]

theorem front_three (ha : 0xE0 ≤ a.toNat ∧ a.toNat ≤ 0xEF) (hb : isSecond a b = true)
    (hc : isContinuation c = true) (s : List UInt8) :
    front a (b :: c :: s) =
      (.char (Char.ofNat ((a.toNat % 16 * 64 + lowBits b) * 64 + lowBits c)), 3) := by
  have h1 : ¬ a < 0x80 := not_lt_of_toNat_le (Nat.le_trans (by decide) ha.1)
  have h2 : ¬ (0xC2 ≤ a ∧ a ≤ 0xDF) := not_between_of_lt (Nat.lt_of_lt_of_le (by decide) ha.1)
  have h3 : 0xE0 ≤ a ∧ a ≤ 0xEF := between_iff.2 ha
  simp only [front, if_neg h1, if_neg h2, if_pos h3, hb, hc, if_true]

theorem front_four (ha : 0xF0 ≤ a.toNat ∧ a.toNat ≤ 0xF4) (hb : isSecond a b = true)
    (hc : isContinuation c = true) (hd : isContinuation d = true) (s : List UInt8) :
    front a (b :: c :: d :: s) = (.char (Char.ofNat
      (((a.toNat % 8 * 64 + lowBits b) * 64 + lowBits c) * 64 + lowBits d)), 4) := by
  have h1 : ¬ a < 0x80 := not_lt_of_toNat_le (Nat.le_trans (by decide) ha.1)
  have h2 : ¬ (0xC2 ≤ a ∧ a ≤ 0xDF) := not_between_of_lt (Nat.lt_of_lt_of_le (by decide) ha.1)
  have h3 : ¬ (0xE0 ≤ a ∧ a ≤ 0xEF) := not_between_of_lt (Nat.lt_of_lt_of_le (by decide) ha.1)
  have h4 : 0xF0 ≤ a ∧ a ≤ 0xF4 := between_iff.2 ha
  simp only [front, if_neg h1, if_neg h2, if_neg h3, if_pos h4, hb, hc, hd, if_true]

/-! ### Characters by their width -/

/-- No character has a code between those of the surrogates. -/
theorem toNat_valid (c : Char) : c.toNat < 0xD800 ∨ 0xDFFF < c.toNat ∧ c.toNat < 0x110000 := c.valid

/-- The bytes of a character make it up, whatever follows them. -/
theorem front_utf8EncodeChar (c : Char) : ∃ a bs, String.utf8EncodeChar c = a :: bs ∧
    ∀ s, front a (bs ++ s) = (.char c, bs.length + 1) := by
  have hvalid := toNat_valid c
  have hchar : Char.ofNat c.toNat = c := c.ofNat_toNat
  have hbyte : ∀ n, n < 256 → (UInt8.ofNat n).toNat = n := fun n hn => UInt8.toNat_ofNat_of_lt' hn
  simp only [String.utf8EncodeChar, show c.val.toNat = c.toNat from rfl]
  generalize c.toNat = v at *
  by_cases hv1 : v ≤ 127
  · refine ⟨_, _, if_pos hv1, fun s => ?_⟩
    have ha : (UInt8.ofNat v).toNat = v := hbyte v (by omega)
    rw [front_one (by omega), ha, hchar]
    rfl
  by_cases hv2 : v ≤ 2047
  · refine ⟨_, _, (if_neg hv1).trans (if_pos hv2), fun s => ?_⟩
    have ha := hbyte (v / 64 % 32 + 192) (by omega)
    have hb := hbyte (v % 64 + 128) (by omega)
    rw [List.singleton_append, front_two (by omega) (isContinuation_iff.2 (by omega)), lowBits, ha,
      hb, show (v / 64 % 32 + 192) % 32 * 64 + (v % 64 + 128) % 64 = v by omega, hchar]
    rfl
  by_cases hv3 : v ≤ 65535
  · refine ⟨_, _, (if_neg hv1).trans ((if_neg hv2).trans (if_pos hv3)), fun s => ?_⟩
    have ha := hbyte (v / 4096 % 16 + 224) (by omega)
    have hb := hbyte (v / 64 % 64 + 128) (by omega)
    have hc := hbyte (v % 64 + 128) (by omega)
    have hsecond : isSecond (UInt8.ofNat (v / 4096 % 16 + 224))
        (UInt8.ofNat (v / 64 % 64 + 128)) = true := by
      refine isSecond_of ?_ ?_ ?_ ?_ ?_ <;> rw [hb] <;> omega
    rw [List.cons_append, List.singleton_append,
      front_three (by omega) hsecond (isContinuation_iff.2 (by omega)), lowBits, lowBits, ha, hb,
      hc, show ((v / 4096 % 16 + 224) % 16 * 64 + (v / 64 % 64 + 128) % 64) * 64 +
        (v % 64 + 128) % 64 = v by omega, hchar]
    rfl
  · refine ⟨_, _, (if_neg hv1).trans ((if_neg hv2).trans (if_neg hv3)), fun s => ?_⟩
    have ha := hbyte (v / 262144 % 8 + 240) (by omega)
    have hb := hbyte (v / 4096 % 64 + 128) (by omega)
    have hc := hbyte (v / 64 % 64 + 128) (by omega)
    have hd := hbyte (v % 64 + 128) (by omega)
    have hsecond : isSecond (UInt8.ofNat (v / 262144 % 8 + 240))
        (UInt8.ofNat (v / 4096 % 64 + 128)) = true := by
      refine isSecond_of ?_ ?_ ?_ ?_ ?_ <;> rw [hb] <;> omega
    rw [List.cons_append, List.cons_append, List.singleton_append,
      front_four (by omega) hsecond (isContinuation_iff.2 (by omega))
        (isContinuation_iff.2 (by omega)), lowBits, lowBits, lowBits, ha, hb, hc, hd,
      show (((v / 262144 % 8 + 240) % 8 * 64 + (v / 4096 % 64 + 128) % 64) * 64 +
        (v / 64 % 64 + 128) % 64) * 64 + (v % 64 + 128) % 64 = v by omega, hchar]
    rfl

/-! ### Texts -/

theorem piecesFrom_append (bs s : List UInt8) : piecesFrom bs.length (bs ++ s) = pieces s := by
  induction bs with
  | nil => rfl
  | cons b bs ih => exact ih

theorem pieces_utf8EncodeChar_append (c : Char) (s : List UInt8) :
    pieces (String.utf8EncodeChar c ++ s) = .char c :: pieces s := by
  obtain ⟨a, bs, hbytes, hfront⟩ := front_utf8EncodeChar c
  rw [hbytes, List.cons_append, pieces, piecesFrom, hfront s]
  exact congrArg (Piece.char c :: ·) (piecesFrom_append bs s)

theorem pieces_bytes (s : List Char) : pieces (bytes (String.ofList s)) = s.map .char := by
  rw [bytes_ofList]
  induction s with
  | nil => rfl
  | cons c s ih => rw [List.flatMap_cons, pieces_utf8EncodeChar_append, ih, List.map_cons]

/-- **A text is read back from its bytes.** -/
theorem text?_bytes (s : String) : text? (bytes s) = some s := by
  have hread : ∀ cs : List Char, (cs.map Piece.char).mapM Piece.char? = some cs := by
    intro cs
    induction cs with
    | nil => rfl
    | cons c cs ih =>
      rw [List.map_cons, List.mapM_cons, ih]
      rfl
  have hpieces := pieces_bytes s.toList
  rw [String.ofList_toList] at hpieces
  rw [text?, hpieces, hread, Option.map_some, String.ofList_toList]

end VisitBooking.Text.Utf8
