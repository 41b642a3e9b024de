import VisitBooking.Proofs.Text.Utf8

/-!
# Bytes that belong to no character

Any bytes are cut in exactly one way. Where the bytes of a character stand, that character is cut
off. Where none does, what is cut off is the longest run that a character could have begun with, or
a single byte if no character begins with it. `Cut` says this and does not mention ranges of bytes.

All that the proof has to know of the first piece is that a run which ends at the `n`th byte is
found again whenever the first `n + 1` bytes are the same.

## Main definitions

* `Utf8.Begins`: the bytes are the first ones of a character that has more.
* `Utf8.Strays`: a run that belongs to no character, and what follows it.
* `Utf8.Cut`: what bytes are cut into.

## Main results

* `Utf8.front_cases`: the first piece.
* `Utf8.pieces_eq_iff`: bytes are cut as they should be.
* `Utf8.text?_eq_some_iff`: the bytes that are read as a text are its bytes.
-/

namespace VisitBooking.Text.Utf8

/-- The bytes are the first ones of a character that has more. -/
def Begins (run : List UInt8) : Prop :=
  ∃ c rest, rest ≠ [] ∧ run ++ rest = String.utf8EncodeChar c

/-- The run before `rest` belongs to no character: there stand the bytes of none, and no longer run
there could begin one. -/
structure Strays (run rest : List UInt8) : Prop where
  ne_nil : run ≠ []
  begins : run.length = 1 ∨ Begins run
  no_char : ∀ c, ¬ String.utf8EncodeChar c <+: run ++ rest
  longest : ∀ longer, longer <+: run ++ rest → Begins longer → longer.length ≤ run.length

/-- What bytes are cut into. -/
inductive Cut : List UInt8 → List Piece → Prop
  | nil : Cut [] []
  | char (c : Char) {s : List UInt8} {ps : List Piece} (h : Cut s ps) :
      Cut (String.utf8EncodeChar c ++ s) (.char c :: ps)
  | stray {run s : List UInt8} {ps : List Piece} (hrun : Strays run s) (h : Cut s ps) :
      Cut (run ++ s) (.stray run.length :: ps)

/-- Where a run ends is determined. -/
theorem Strays.length_eq {run rest run' rest' : List UInt8} (h : Strays run rest)
    (h' : Strays run' rest') (heq : run ++ rest = run' ++ rest') : run.length = run'.length := by
  have hle : ∀ {r s r' s' : List UInt8}, Strays r s → Strays r' s' → r ++ s = r' ++ s' →
      r.length ≤ r'.length := by
    intro r s r' s' hr hr' heq
    rcases hr.begins with hone | hbegins
    · rw [hone]
      exact List.length_pos_of_ne_nil hr'.ne_nil
    · exact hr'.longest r (heq ▸ List.prefix_append r s) hbegins
  exact Nat.le_antisymm (hle h h' heq) (hle h' h heq.symm)

/-! ### Bytes of a character -/

variable {a b c d : UInt8} {s : List UInt8}

theorem toNat_ofNat_of_valid {v : Nat} (h : v < 0xD800 ∨ 0xDFFF < v ∧ v < 0x110000) :
    (Char.ofNat v).val.toNat = v := by
  have hvalid : v.isValidChar := h
  rw [Char.ofNat, dif_pos hvalid]
  rfl

theorem byte_eq {n : Nat} (h : n = a.toNat) : UInt8.ofNat n = a := by
  rw [h, UInt8.ofNat_toNat]

theorem of_between {x y : UInt8} (h : (decide (x ≤ b) && decide (b ≤ y)) = true) :
    x.toNat ≤ b.toNat ∧ b.toNat ≤ y.toNat := between_iff.1 (by simpa using h)

/-- What may follow the first byte of a character of three or four bytes. -/
theorem of_isSecond (h : isSecond a b = true) :
    (0x80 ≤ b.toNat ∧ b.toNat ≤ 0xBF) ∧ (a.toNat = 0xE0 → 0xA0 ≤ b.toNat) ∧
      (a.toNat = 0xED → b.toNat ≤ 0x9F) ∧ (a.toNat = 0xF0 → 0x90 ≤ b.toNat) ∧
      (a.toNat = 0xF4 → b.toNat ≤ 0x8F) := by
  -- For each of the four first bytes that restrict the second one, and for the others.
  simp only [isSecond, isContinuation, ← UInt8.toNat_inj, UInt8.reduceToNat] at h
  repeat' split at h
  all_goals
    have hb := of_between h
    simp only [UInt8.reduceToNat] at hb
    omega

theorem utf8EncodeChar_one (ha : a.toNat < 0x80) :
    String.utf8EncodeChar (Char.ofNat a.toNat) = [a] := by
  have hv := toNat_ofNat_of_valid (v := a.toNat) (by omega)
  simp only [String.utf8EncodeChar, hv]
  rw [if_pos (by omega), byte_eq rfl]

theorem utf8EncodeChar_two (ha : 0xC2 ≤ a.toNat ∧ a.toNat ≤ 0xDF)
    (hb : isContinuation b = true) :
    String.utf8EncodeChar (Char.ofNat (a.toNat % 32 * 64 + lowBits b)) = [a, b] := by
  have hb := isContinuation_iff.1 hb
  rw [lowBits]
  have hv := toNat_ofNat_of_valid (v := a.toNat % 32 * 64 + b.toNat % 64) (by omega)
  simp only [String.utf8EncodeChar, hv]
  rw [if_neg (by omega), if_pos (by omega), byte_eq (a := a) (by omega),
    byte_eq (a := b) (by omega)]

theorem utf8EncodeChar_three (ha : 0xE0 ≤ a.toNat ∧ a.toNat ≤ 0xEF) (hb : isSecond a b = true)
    (hc : isContinuation c = true) :
    String.utf8EncodeChar
      (Char.ofNat ((a.toNat % 16 * 64 + lowBits b) * 64 + lowBits c)) = [a, b, c] := by
  have hb := of_isSecond hb
  have hc := isContinuation_iff.1 hc
  rw [lowBits, lowBits]
  have hv := toNat_ofNat_of_valid
    (v := (a.toNat % 16 * 64 + b.toNat % 64) * 64 + c.toNat % 64) (by omega)
  simp only [String.utf8EncodeChar, hv]
  rw [if_neg (by omega), if_neg (by omega), if_pos (by omega), byte_eq (a := a) (by omega),
    byte_eq (a := b) (by omega), byte_eq (a := c) (by omega)]

theorem utf8EncodeChar_four (ha : 0xF0 ≤ a.toNat ∧ a.toNat ≤ 0xF4) (hb : isSecond a b = true)
    (hc : isContinuation c = true) (hd : isContinuation d = true) :
    String.utf8EncodeChar (Char.ofNat
      (((a.toNat % 8 * 64 + lowBits b) * 64 + lowBits c) * 64 + lowBits d)) = [a, b, c, d] := by
  have hb := of_isSecond hb
  have hc := isContinuation_iff.1 hc
  have hd := isContinuation_iff.1 hd
  rw [lowBits, lowBits, lowBits]
  have hv := toNat_ofNat_of_valid
    (v := ((a.toNat % 8 * 64 + b.toNat % 64) * 64 + c.toNat % 64) * 64 + d.toNat % 64) (by omega)
  simp only [String.utf8EncodeChar, hv]
  rw [if_neg (by omega), if_neg (by omega), if_neg (by omega), byte_eq (a := a) (by omega),
    byte_eq (a := b) (by omega), byte_eq (a := c) (by omega), byte_eq (a := d) (by omega)]

/-! ### The first piece -/

/-- A first piece that is a character is spelled there. -/
theorem front_eq_char {ch : Char} {width : Nat} (h : front a s = (.char ch, width)) :
    ∃ bs t, s = bs ++ t ∧ String.utf8EncodeChar ch = a :: bs ∧ width = bs.length + 1 := by
  unfold front at h
  split at h
  case isTrue ha =>
    obtain ⟨rfl, rfl⟩ := by simpa using h
    exact ⟨[], s, rfl, utf8EncodeChar_one (UInt8.lt_iff_toNat_lt.1 ha), rfl⟩
  split at h
  case isTrue ha =>
    have ha := between_iff.1 ha
    split at h
    · split at h
      case isTrue b t hb =>
        obtain ⟨rfl, rfl⟩ := by simpa using h
        exact ⟨[b], t, rfl, utf8EncodeChar_two ha hb, rfl⟩
      case isFalse => cases h
    · cases h
  split at h
  case isTrue ha =>
    have ha := between_iff.1 ha
    repeat' split at h
    all_goals cases h
    rename_i b hb _ c t hc
    exact ⟨[b, c], t, rfl, utf8EncodeChar_three ha hb hc, rfl⟩
  split at h
  case isTrue ha =>
    have ha := between_iff.1 ha
    repeat' split at h
    all_goals cases h
    rename_i b hb _ c hc _ d t hd
    exact ⟨[b, c, d], t, rfl, utf8EncodeChar_four ha hb hc hd, rfl⟩
  cases h

/-- A first piece that is a run is found again whenever one byte more than the run is the same. -/
theorem front_eq_stray {n width : Nat} (h : front a s = (.stray n, width)) :
    width = n ∧ 1 ≤ n ∧ n ≤ s.length + 1 ∧
      ∀ s', s'.take n = s.take n → front a s' = (.stray n, n) := by
  by_cases h1 : a < 0x80
  · simp only [front, if_pos h1] at h
    cases h
  by_cases h2 : 0xC2 ≤ a ∧ a ≤ 0xDF
  · simp only [front, if_neg h1, if_pos h2] at h ⊢
    repeat' split at h
    all_goals cases h
    all_goals refine ⟨rfl, by decide, by simp, fun s' hs' => ?_⟩
    all_goals rcases s' with _ | ⟨b', t'⟩ <;> simp_all
  by_cases h3 : 0xE0 ≤ a ∧ a ≤ 0xEF
  · simp only [front, if_neg h1, if_neg h2, if_pos h3] at h ⊢
    repeat' split at h
    all_goals cases h
    all_goals refine ⟨rfl, by decide, by simp, fun s' hs' => ?_⟩
    all_goals rcases s' with _ | ⟨b', _ | ⟨c', t'⟩⟩ <;> simp_all
  by_cases h4 : 0xF0 ≤ a ∧ a ≤ 0xF4
  · simp only [front, if_neg h1, if_neg h2, if_neg h3, if_pos h4] at h ⊢
    repeat' split at h
    all_goals cases h
    all_goals refine ⟨rfl, by decide, by simp, fun s' hs' => ?_⟩
    all_goals rcases s' with _ | ⟨b', _ | ⟨c', _ | ⟨d', t'⟩⟩⟩ <;> simp_all
  · simp only [front, if_neg h1, if_neg h2, if_neg h3, if_neg h4] at h ⊢
    cases h
    exact ⟨rfl, by decide, by simp, fun _ _ => rfl⟩

/-- A run that is a first piece has one byte, or a character begins with it. -/
theorem begins_of_front_eq_stray {n width : Nat} (h : front a s = (.stray n, width)) :
    n = 1 ∨ Begins ((a :: s).take n) := by
  have hbegins : ∀ {v : Nat} {bs run : List UInt8},
      String.utf8EncodeChar (Char.ofNat v) = run ++ bs → bs ≠ [] → Begins run :=
    fun hv hbs => ⟨_, _, hbs, hv.symm⟩
  unfold front at h
  split at h
  · cases h
  split at h
  · repeat' split at h
    all_goals cases h
    all_goals exact .inl rfl
  split at h
  case isTrue ha =>
    have htwo : ∀ b, isSecond a b = true → Begins [a, b] := fun b hb =>
      hbegins (utf8EncodeChar_three (c := 0x80) (between_iff.1 ha) hb rfl) (List.cons_ne_nil _ _)
    repeat' split at h
    all_goals cases h
    all_goals first | exact .inl rfl | exact .inr (htwo _ ‹_›)
  split at h
  case isTrue ha =>
    have htwo : ∀ b, isSecond a b = true → Begins [a, b] := fun b hb =>
      hbegins (utf8EncodeChar_four (c := 0x80) (d := 0x80) (between_iff.1 ha) hb rfl rfl)
        (List.cons_ne_nil _ _)
    have hthree : ∀ b c, isSecond a b = true → isContinuation c = true → Begins [a, b, c] :=
      fun b c hb hc => hbegins (utf8EncodeChar_four (d := 0x80) (between_iff.1 ha) hb hc rfl)
        (List.cons_ne_nil _ _)
    repeat' split at h
    all_goals cases h
    all_goals first | exact .inl rfl | exact .inr (htwo _ ‹_›) | exact .inr (hthree _ _ ‹_› ‹_›)
  cases h
  exact .inl rfl

/-- The bytes of a character are a first piece that is a character. -/
theorem front_of_prefix {ch : Char} (h : String.utf8EncodeChar ch <+: a :: s) :
    ∃ width, front a s = (.char ch, width) := by
  obtain ⟨b, bs, hbytes, hfront⟩ := front_utf8EncodeChar ch
  obtain ⟨t, ht⟩ := h
  rw [hbytes, List.cons_append, List.cons.injEq] at ht
  obtain ⟨rfl, rfl⟩ := ht
  exact ⟨_, hfront t⟩

/-- A first piece that is a run belongs to no character. -/
theorem strays_of_front_eq_stray {n width : Nat} (h : front a s = (.stray n, width)) :
    ∃ run t, a :: s = run ++ t ∧ run.length = n ∧ Strays run t := by
  obtain ⟨-, hpos, hle, hsame⟩ := front_eq_stray h
  have hlength : ((a :: s).take n).length = n := by
    rw [List.length_take, List.length_cons, Nat.min_eq_left hle]
  refine ⟨(a :: s).take n, (a :: s).drop n, (List.take_append_drop n _).symm, hlength,
    ?_, ?_, ?_, ?_⟩
  · intro hnil
    rw [hnil, List.length_nil] at hlength
    omega
  · rw [hlength]
    exact begins_of_front_eq_stray h
  · intro ch hch
    rw [List.take_append_drop] at hch
    obtain ⟨_, hfront⟩ := front_of_prefix hch
    cases hfront.symm.trans h
  · rintro longer hlonger ⟨ch, rest, -, hch⟩
    rw [List.take_append_drop] at hlonger
    rw [hlength]
    -- If it were longer, the bytes that end the run would end it in the character too.
    by_contra hlt
    obtain ⟨t, ht⟩ := hlonger
    cases longer with
    | nil => exact hlt (Nat.zero_le _)
    | cons b l =>
      rw [List.cons_append, List.cons.injEq] at ht
      obtain ⟨rfl, rfl⟩ := ht
      have hn : n ≤ l.length := by
        rw [List.length_cons] at hlt
        omega
      have htake : (l ++ rest).take n = (l ++ t).take n := by
        rw [List.take_append_of_le_length hn, List.take_append_of_le_length hn]
      obtain ⟨_, hfront⟩ := front_of_prefix ⟨[], (List.append_nil _).trans hch.symm⟩
      cases hfront.symm.trans (hsame _ htake)

/-- The first piece: a character that is spelled there, or a run that belongs to none. -/
theorem front_cases (a : UInt8) (s : List UInt8) :
    (∃ ch bs t, s = bs ++ t ∧ String.utf8EncodeChar ch = a :: bs ∧
      front a s = (.char ch, bs.length + 1)) ∨
    ∃ bs t, s = bs ++ t ∧ Strays (a :: bs) t ∧
      front a s = (.stray (bs.length + 1), bs.length + 1) := by
  rcases h : front a s with ⟨ch | n, width⟩
  · obtain ⟨bs, t, rfl, hch, rfl⟩ := front_eq_char h
    exact .inl ⟨ch, bs, t, rfl, hch, rfl⟩
  · obtain ⟨run, t, heq, rfl, hrun⟩ := strays_of_front_eq_stray h
    cases run with
    | nil => exact absurd rfl hrun.ne_nil
    | cons b bs =>
      rw [List.cons_append, List.cons.injEq] at heq
      obtain ⟨rfl, rfl⟩ := heq
      rw [(front_eq_stray h).1]
      exact .inr ⟨bs, t, rfl, hrun, rfl⟩

/-! ### All pieces -/

theorem pieces_cons_of_front {p : Piece} {bs t : List UInt8}
    (h : front a (bs ++ t) = (p, bs.length + 1)) : pieces (a :: (bs ++ t)) = p :: pieces t := by
  rw [pieces, piecesFrom, h]
  exact congrArg (p :: ·) (piecesFrom_append bs t)

theorem pieces_stray_append {run rest : List UInt8} (h : Strays run rest) :
    pieces (run ++ rest) = .stray run.length :: pieces rest := by
  cases run with
  | nil => exact absurd rfl h.ne_nil
  | cons a bs =>
    rcases front_cases a (bs ++ rest) with ⟨ch, cs, t, heq, hch, -⟩ | ⟨cs, t, heq, hcs, hfront⟩
    · refine absurd ?_ (h.no_char ch)
      rw [hch, List.cons_append, heq]
      exact List.prefix_append (a :: cs) t
    · have hlength : (a :: bs).length = (a :: cs).length :=
        h.length_eq hcs (congrArg (a :: ·) heq)
      rw [List.length_cons, List.length_cons] at hlength
      rw [← hlength] at hfront
      exact pieces_cons_of_front hfront

theorem cut_pieces (s : List UInt8) : Cut s (pieces s) := by
  induction hn : s.length using Nat.strongRecOn generalizing s with
  | ind n ih =>
    subst hn
    cases s with
    | nil => exact .nil
    | cons a s =>
      rcases front_cases a s with ⟨ch, bs, t, rfl, hch, hfront⟩ | ⟨bs, t, rfl, hrun, hfront⟩
      · have ht := ih t.length (by rw [List.length_cons, List.length_append]; omega) t rfl
        rw [pieces_cons_of_front hfront, ← List.cons_append, ← hch]
        exact .char ch ht
      · have ht := ih t.length (by rw [List.length_cons, List.length_append]; omega) t rfl
        rw [pieces_cons_of_front hfront, ← List.cons_append, ← List.length_cons (a := a)]
        exact .stray hrun ht

/-- **Bytes are cut as they should be.** -/
theorem pieces_eq_iff {s : List UInt8} {ps : List Piece} : pieces s = ps ↔ Cut s ps := by
  refine ⟨fun h => h ▸ cut_pieces s, fun h => ?_⟩
  induction h with
  | nil => rfl
  | char c _ ih => rw [pieces_utf8EncodeChar_append, ih]
  | stray hrun _ ih => rw [pieces_stray_append hrun, ih]

theorem Cut.eq_flatMap {s : List UInt8} {cs : List Char} (h : Cut s (cs.map .char)) :
    s = cs.flatMap String.utf8EncodeChar := by
  generalize hps : cs.map Piece.char = ps at h
  induction h generalizing cs with
  | nil =>
    rw [List.map_eq_nil_iff.1 hps]
    rfl
  | char c _ ih =>
    obtain ⟨c', cs, rfl, hc, hcs⟩ := List.map_eq_cons_iff.1 hps
    cases hc
    rw [List.flatMap_cons, ← ih hcs]
  | stray =>
    obtain ⟨_, _, -, hc, -⟩ := List.map_eq_cons_iff.1 hps
    cases hc

/-- **The bytes that are read as a text are its bytes.** -/
theorem text?_eq_some_iff {s : List UInt8} {t : String} : text? s = some t ↔ s = bytes t := by
  refine ⟨fun h => ?_, fun h => h ▸ text?_bytes t⟩
  have hchars : ∀ {ps : List Piece} {cs : List Char}, ps.mapM Piece.char? = some cs →
      ps = cs.map .char := by
    intro ps
    induction ps with
    | nil =>
      rintro cs ⟨⟩
      rfl
    | cons p ps ih =>
      intro cs h
      rw [List.mapM_cons] at h
      obtain ⟨c, hc, h⟩ := Option.bind_eq_some_iff.1 h
      obtain ⟨cs, hcs, ⟨⟩⟩ := Option.bind_eq_some_iff.1 h
      cases p with
      | char c' =>
        cases hc
        rw [ih hcs, List.map_cons]
      | stray => cases hc
  obtain ⟨cs, hcs, rfl⟩ := Option.map_eq_some_iff.1 h
  rw [bytes_ofList]
  exact Cut.eq_flatMap (hchars hcs ▸ cut_pieces s)

end VisitBooking.Text.Utf8
