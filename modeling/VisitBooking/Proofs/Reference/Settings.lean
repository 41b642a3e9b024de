import Mathlib.Data.List.Nodup
import Mathlib.Data.List.TakeDrop
import Mathlib.Order.WellFounded
import VisitBooking.Reference.Codec

/-!
# Settings are checked in order

Settings can be wrong in several ways at once, and the fault that is told is the first one. Which
one that is can be said without going through the checks: each fault stands at a *place*, the checks
on numbers, delimiter and size of the alphabet at the places 0 to 3, and what is wrong with a symbol
at the place of the symbol after them. Settings without a fault at any place are accepted, and of
any others the fault at the least place is reported.

At one place at most one fault counts. A symbol may both repeat an earlier one and be the delimiter,
but then the earlier one is the delimiter too, and has the lesser place.

## Main definitions

* `Config.Sound`: what settings have to meet.
* `Config.FaultAt`, `Config.FirstFault`: the faults of settings by their places.

## Main results

* `symbolFault_eq_none_iff`, `symbolFault_append`: the scan of the alphabet.
* `Config.sound_iff`: settings without a fault.
* `Scheme.ofConfig_decides`: the headline.
-/

namespace VisitBooking.Reference

/-! ### Faults and their places -/

namespace Config

/-- Settings that are accepted. -/
structure Sound (cfg : Config) : Prop where
  minLength_pos : 0 < cfg.minLength
  chunkSize_pos : 0 < cfg.chunkSize
  /-- There is no delimiter, or it is one character that is neither a letter nor a number. -/
  delimiter : cfg.delimiter = "" ∨
    ∃ d, cfg.delimiter = String.singleton d ∧ ¬ Text.isAlphanumeric d
  two_le_length : 2 ≤ cfg.alphabet.length
  nodup : cfg.alphabet.toList.Nodup
  delimiter_ne : ∀ c ∈ cfg.alphabet.toList, cfg.delimiter ≠ String.singleton c

/-- What is wrong with settings, and at which place. -/
inductive FaultAt (cfg : Config) : Nat → ConfigFault → Prop where
  | minLength (h : cfg.minLength = 0) : FaultAt cfg 0 .minLengthZero
  | chunkSize (h : cfg.chunkSize = 0) : FaultAt cfg 1 .chunkSizeZero
  | alphanumeric (d : Char) (hd : cfg.delimiter = String.singleton d)
      (h : Text.isAlphanumeric d) : FaultAt cfg 2 (.delimiterAlphanumeric cfg.delimiter)
  | long (h : 1 < cfg.delimiter.length) : FaultAt cfg 2 (.delimiterLong cfg.delimiter)
  | short (h : cfg.alphabet.length < 2) : FaultAt cfg 3 .alphabetShort
  | repeated (i : Nat) (c : Char) (hc : cfg.alphabet.toList[i]? = some c)
      (h : c ∈ cfg.alphabet.toList.take i) : FaultAt cfg (4 + i) (.symbolRepeated c)
  | isDelimiter (i : Nat) (c : Char) (hc : cfg.alphabet.toList[i]? = some c)
      (h : cfg.delimiter = String.singleton c) : FaultAt cfg (4 + i) (.symbolIsDelimiter c)

/-- The fault at the least place. -/
def FirstFault (cfg : Config) (f : ConfigFault) : Prop :=
  ∃ place, cfg.FaultAt place f ∧ ∀ earlier < place, ∀ g, ¬ cfg.FaultAt earlier g

end Config

/-! ### Delimiters -/

theorem eq_singleton_iff {s : String} {c : Char} : s = String.singleton c ↔ s.toList = [c] := by
  rw [← String.toList_inj, String.toList_singleton]

theorem delimiterOf_singleton (d : Char) :
    delimiterOf (String.singleton d) =
      if Text.isAlphanumeric d then .error (.delimiterAlphanumeric (String.singleton d))
      else .ok (some d) := by
  rw [delimiterOf, String.toList_singleton]

theorem delimiterOf_long {s : String} (h : 1 < s.length) :
    delimiterOf s = .error (.delimiterLong s) := by
  rw [← String.length_toList] at h
  unfold delimiterOf
  split
  · simp_all
  · simp_all
  · rfl

/-- A text is empty, or one character, or longer. -/
theorem text_cases (s : String) : s = "" ∨ (∃ d, s = String.singleton d) ∨ 1 < s.length := by
  cases hs : s.toList with
  | nil => exact .inl (String.toList_eq_nil_iff.1 hs)
  | cons d ds =>
    cases ds with
    | nil => exact .inr (.inl ⟨d, eq_singleton_iff.2 hs⟩)
    | cons e es =>
      refine .inr (.inr ?_)
      rw [← String.length_toList, hs, List.length_cons, List.length_cons]
      omega

/-! ### The scan of the alphabet -/

section

variable {delimiter : Option Char} {earlier before cs : List Char} {c : Char}

theorem symbolFault_eq_none_iff :
    symbolFault delimiter earlier cs = none ↔
      cs.Nodup ∧ (∀ c ∈ cs, c ∉ earlier) ∧ ∀ d, delimiter = some d → d ∉ cs := by
  refine ⟨nodup_of_symbolFault, ?_⟩
  induction cs generalizing earlier with
  | nil => exact fun _ => rfl
  | cons c cs ih =>
    rintro ⟨hnodup, hearlier, hdelimiter⟩
    obtain ⟨hc, hnodup⟩ := List.nodup_cons.1 hnodup
    have hnew : c ∉ earlier := hearlier c (List.mem_cons_self ..)
    have hne : delimiter ≠ some c := fun h => hdelimiter c h (List.mem_cons_self ..)
    rw [symbolFault, if_neg hnew, if_neg hne]
    refine ih ⟨hnodup, fun x hx => ?_, fun d hd hmem => ?_⟩
    · rw [List.mem_cons, not_or]
      exact ⟨fun h => hc (h ▸ hx), hearlier x (List.mem_cons_of_mem c hx)⟩
    · exact hdelimiter d hd (List.mem_cons_of_mem c hmem)

/-- Symbols without a fault are passed over, and count as earlier ones from then on. -/
theorem symbolFault_append (h : symbolFault delimiter earlier before = none) (cs : List Char) :
    symbolFault delimiter earlier (before ++ cs) =
      symbolFault delimiter (before.reverse ++ earlier) cs := by
  induction before generalizing earlier with
  | nil => rfl
  | cons c before ih =>
    rw [symbolFault] at h
    split at h
    · cases h
    · rename_i hc
      split at h
      · cases h
      · rename_i hd
        rw [List.cons_append, symbolFault, if_neg hc, if_neg hd, ih h, List.reverse_cons,
          List.append_assoc, List.singleton_append]

end

namespace Config

variable {cfg : Config}

/-! ### Settings without a fault -/

/-- Up to the first place with a fault the symbols are all different, and none is the delimiter. -/
theorem clean_take {i : Nat} (h : ∀ j < i, ∀ g, ¬ cfg.FaultAt (4 + j) g) :
    (cfg.alphabet.toList.take i).Nodup ∧
      ∀ c ∈ cfg.alphabet.toList.take i, cfg.delimiter ≠ String.singleton c := by
  refine ⟨List.pairwise_iff_getElem.2 fun j k hj hk hjk heq => ?_, fun c hc hd => ?_⟩
  · rw [List.length_take] at hk
    rw [List.getElem_take, List.getElem_take] at heq
    have hmem : cfg.alphabet.toList[k] ∈ cfg.alphabet.toList.take k :=
      List.mem_take_iff_getElem.2 ⟨j, by omega, heq⟩
    exact h k (by omega) _ (.repeated k _ (List.getElem?_eq_getElem _) hmem)
  · obtain ⟨j, hj, rfl⟩ := List.mem_take_iff_getElem.1 hc
    exact h j (by omega) _ (.isDelimiter j _ (List.getElem?_eq_getElem _) hd)

theorem Sound.not_faultAt (h : cfg.Sound) (place : Nat) (f : ConfigFault) :
    ¬ cfg.FaultAt place f := by
  intro hf
  cases hf with
  | minLength hzero => exact Nat.ne_of_gt h.minLength_pos hzero
  | chunkSize hzero => exact Nat.ne_of_gt h.chunkSize_pos hzero
  | alphanumeric d hd halpha =>
    rcases h.delimiter with hempty | ⟨e, he, hother⟩
    · cases String.singleton_ne_empty (hd.symm.trans hempty)
    · obtain rfl : d = e := String.singleton_inj.1 (hd.symm.trans he)
      exact hother halpha
  | long hlong =>
    rcases h.delimiter with hempty | ⟨e, he, -⟩
    · rw [hempty] at hlong
      cases hlong
    · rw [he, String.length_singleton] at hlong
      exact Nat.lt_irrefl 1 hlong
  | short hshort => exact Nat.not_lt_of_le h.two_le_length hshort
  | repeated i c hc hmem =>
    obtain ⟨hi, rfl⟩ := List.getElem?_eq_some_iff.1 hc
    obtain ⟨j, hj, heq⟩ := List.mem_take_iff_getElem.1 hmem
    have hji : j = i := h.nodup.getElem_inj_iff.1 heq
    omega
  | isDelimiter i c hc hd => exact h.delimiter_ne c (List.mem_of_getElem? hc) hd

/-- A delimiter that is all right is missing or one character of the right kind. -/
theorem delimiter_cases (h : ∀ g, ¬ cfg.FaultAt 2 g) : cfg.delimiter = "" ∨
    ∃ d, cfg.delimiter = String.singleton d ∧ ¬ Text.isAlphanumeric d := by
  rcases text_cases cfg.delimiter with hempty | ⟨d, hd⟩ | hlong
  · exact .inl hempty
  · exact .inr ⟨d, hd, fun halpha => h _ (.alphanumeric d hd halpha)⟩
  · exact absurd (.long hlong) (h _)

/-- Settings make sense just if there is no fault at any place. -/
theorem sound_iff : cfg.Sound ↔ ∀ place f, ¬ cfg.FaultAt place f := by
  refine ⟨Sound.not_faultAt, fun h => ?_⟩
  obtain ⟨hnodup, hdelimiter⟩ :=
    clean_take (i := cfg.alphabet.toList.length) fun j _ => h (4 + j)
  rw [List.take_length] at hnodup hdelimiter
  refine ⟨?_, ?_, delimiter_cases (h 2), ?_, hnodup, hdelimiter⟩
  · exact Nat.pos_of_ne_zero fun hzero => h _ _ (.minLength hzero)
  · exact Nat.pos_of_ne_zero fun hzero => h _ _ (.chunkSize hzero)
  · exact Nat.le_of_not_lt fun hshort => h _ _ (.short hshort)

/-- Settings make sense or have a first fault. -/
theorem sound_or_firstFault (cfg : Config) : cfg.Sound ∨ ∃ f, cfg.FirstFault f := by
  by_cases h : ∃ place f, cfg.FaultAt place f
  · obtain ⟨place, ⟨f, hf⟩, hleast⟩ := WellFounded.has_min Nat.lt_wfRel.wf
      {place | ∃ f, cfg.FaultAt place f} h
    exact .inr ⟨f, place, hf, fun earlier hlt g hg => hleast earlier ⟨g, hg⟩ hlt⟩
  · rw [not_exists] at h
    exact .inl (sound_iff.2 fun place => not_exists.1 (h place))

/-! ### Settings whose delimiter is all right -/

section

variable (h : ∀ g, ¬ cfg.FaultAt 2 g)

include h

theorem head?_delimiter_eq_some_iff {d : Char} :
    cfg.delimiter.toList.head? = some d ↔ cfg.delimiter = String.singleton d := by
  rcases delimiter_cases h with hempty | ⟨e, he, -⟩
  · rw [hempty]
    exact iff_of_false nofun fun hd => String.singleton_ne_empty hd.symm
  · rw [he, String.toList_singleton, List.head?_cons, Option.some_inj, String.singleton_inj]

theorem delimiterOf_delimiter :
    delimiterOf cfg.delimiter = .ok cfg.delimiter.toList.head? := by
  rcases delimiter_cases h with hempty | ⟨d, hd, hother⟩
  · rw [hempty]
    rfl
  · rw [hd, delimiterOf_singleton, if_neg hother, String.toList_singleton, List.head?_cons]

/-- The scan of the alphabet comes to the first symbol with a fault. -/
theorem symbolFault_take_eq_none {i : Nat} (hi : ∀ j < i, ∀ g, ¬ cfg.FaultAt (4 + j) g) :
    symbolFault cfg.delimiter.toList.head? [] (cfg.alphabet.toList.take i) = none := by
  obtain ⟨hnodup, hdelimiter⟩ := clean_take hi
  refine symbolFault_eq_none_iff.2 ⟨hnodup, fun c _ => List.not_mem_nil, fun d hd hmem => ?_⟩
  exact hdelimiter d hmem ((head?_delimiter_eq_some_iff h).1 hd)

theorem symbolFault_alphabet {i : Nat} (hi : ∀ j < i, ∀ g, ¬ cfg.FaultAt (4 + j) g) :
    symbolFault cfg.delimiter.toList.head? [] cfg.alphabet.toList =
      symbolFault cfg.delimiter.toList.head? (cfg.alphabet.toList.take i).reverse
        (cfg.alphabet.toList.drop i) := by
  have hpassed := symbolFault_append (symbolFault_take_eq_none h hi) (cfg.alphabet.toList.drop i)
  rwa [List.take_append_drop, List.append_nil] at hpassed

end

end Config

/-! ### The checks -/

namespace Scheme

variable {cfg : Config}

section

variable (hm : 0 < cfg.minLength) (hc : 0 < cfg.chunkSize)

include hm hc

theorem ofConfig_of_delimiterOf_eq_error {f : ConfigFault}
    (h : delimiterOf cfg.delimiter = .error f) : ofConfig cfg = .error f := by
  rw [ofConfig, dif_neg (Nat.ne_of_gt hm), dif_neg (Nat.ne_of_gt hc), h]

variable {delimiter : Option Char} (hd : delimiterOf cfg.delimiter = .ok delimiter)

include hd

theorem ofConfig_of_short (h : cfg.alphabet.length < 2) :
    ofConfig cfg = .error .alphabetShort := by
  rw [← String.length_toList] at h
  rw [ofConfig, dif_neg (Nat.ne_of_gt hm), dif_neg (Nat.ne_of_gt hc), hd]
  exact dif_pos h

variable (hl : 2 ≤ cfg.alphabet.length)

include hl

theorem ofConfig_of_symbolFault_eq_some {f : ConfigFault}
    (h : symbolFault delimiter [] cfg.alphabet.toList = some f) : ofConfig cfg = .error f := by
  rw [← String.length_toList] at hl
  rw [ofConfig, dif_neg (Nat.ne_of_gt hm), dif_neg (Nat.ne_of_gt hc), hd]
  simp only [dif_neg (Nat.not_lt_of_le hl)]
  split
  · simp_all
  · simp_all

/-- Settings that pass all checks make the scheme that they describe. -/
theorem ofConfig_of_symbolFault_eq_none
    (h : symbolFault delimiter [] cfg.alphabet.toList = none) :
    ∃ c, ofConfig cfg = .ok c ∧ c.alphabet = cfg.alphabet.toList ∧
      c.minLength = cfg.minLength ∧ c.chunkSize = cfg.chunkSize ∧ c.delimiter = delimiter := by
  rw [← String.length_toList] at hl
  rw [ofConfig, dif_neg (Nat.ne_of_gt hm), dif_neg (Nat.ne_of_gt hc), hd]
  simp only [dif_neg (Nat.not_lt_of_le hl)]
  split
  · simp_all
  · exact ⟨_, rfl, rfl, rfl, rfl, rfl⟩

end

theorem ofConfig_of_sound (h : cfg.Sound) :
    ∃ c, ofConfig cfg = .ok c ∧ c.alphabet = cfg.alphabet.toList ∧ c.minLength = cfg.minLength ∧
      c.chunkSize = cfg.chunkSize ∧ c.delimiter = cfg.delimiter.toList.head? := by
  have hfree := Config.sound_iff.1 h
  have hscan := Config.symbolFault_take_eq_none (hfree 2) (i := cfg.alphabet.toList.length)
    fun j _ => hfree (4 + j)
  rw [List.take_length] at hscan
  exact ofConfig_of_symbolFault_eq_none h.minLength_pos h.chunkSize_pos
    (Config.delimiterOf_delimiter (hfree 2)) h.two_le_length hscan

/-- The fault at the least place is the one that is told. -/
theorem ofConfig_of_firstFault {f : ConfigFault} (h : cfg.FirstFault f) :
    ofConfig cfg = .error f := by
  obtain ⟨place, hf, hleast⟩ := h
  -- What the checks before the one that fails have found to be in order.
  have hm (h0 : 0 < place) : 0 < cfg.minLength :=
    Nat.pos_of_ne_zero fun hzero => hleast 0 h0 _ (.minLength hzero)
  have hc (h1 : 1 < place) : 0 < cfg.chunkSize :=
    Nat.pos_of_ne_zero fun hzero => hleast 1 h1 _ (.chunkSize hzero)
  have hd (h2 : 2 < place) : ∀ g, ¬ cfg.FaultAt 2 g := hleast 2 h2
  have hl (h3 : 3 < place) : 2 ≤ cfg.alphabet.length :=
    Nat.le_of_not_lt fun hshort => hleast 3 h3 _ (.short hshort)
  have hi {i : Nat} (hplace : place = 4 + i) : ∀ j < i, ∀ g, ¬ cfg.FaultAt (4 + j) g :=
    fun j hj => hleast (4 + j) (by omega)
  cases hf with
  | minLength hzero => exact dif_pos hzero
  | chunkSize hzero =>
    rw [ofConfig, dif_neg (Nat.ne_of_gt (hm (by omega))), dif_pos hzero]
  | alphanumeric d hdelimiter halpha =>
    refine ofConfig_of_delimiterOf_eq_error (hm (by omega)) (hc (by omega)) ?_
    rw [hdelimiter, delimiterOf_singleton, if_pos halpha]
  | long hlong =>
    exact ofConfig_of_delimiterOf_eq_error (hm (by omega)) (hc (by omega)) (delimiterOf_long hlong)
  | short hshort =>
    exact ofConfig_of_short (hm (by omega)) (hc (by omega))
      (Config.delimiterOf_delimiter (hd (by omega))) hshort
  | repeated i c hget hmem =>
    refine ofConfig_of_symbolFault_eq_some (hm (by omega)) (hc (by omega))
      (Config.delimiterOf_delimiter (hd (by omega))) (hl (by omega)) ?_
    obtain ⟨hlt, rfl⟩ := List.getElem?_eq_some_iff.1 hget
    rw [Config.symbolFault_alphabet (hd (by omega)) (hi rfl), List.drop_eq_getElem_cons hlt,
      symbolFault, if_pos (List.mem_reverse.2 hmem)]
  | isDelimiter i c hget hdelimiter =>
    refine ofConfig_of_symbolFault_eq_some (hm (by omega)) (hc (by omega))
      (Config.delimiterOf_delimiter (hd (by omega))) (hl (by omega)) ?_
    obtain ⟨hlt, rfl⟩ := List.getElem?_eq_some_iff.1 hget
    -- The delimiter does not stand at a lesser place.
    have hnew : cfg.alphabet.toList[i] ∉ (cfg.alphabet.toList.take i).reverse :=
      fun hmem => (Config.clean_take (hi rfl)).2 _ (List.mem_reverse.1 hmem) hdelimiter
    rw [Config.symbolFault_alphabet (hd (by omega)) (hi rfl), List.drop_eq_getElem_cons hlt,
      symbolFault, if_neg hnew,
      if_pos ((Config.head?_delimiter_eq_some_iff (hd (by omega))).2 hdelimiter)]

/-! ### The headline -/

/-- **Which settings are accepted.** Those with a positive least length and group size, with no
delimiter or one that is a single character and neither a letter nor a number, and with an alphabet
of at least two symbols that are all different and none of which is the delimiter; and then they
make the scheme that they describe. Any other settings have a first fault in the order of the
checks, the leftmost symbol with one among the symbols, and it is this one that is told. -/
theorem ofConfig_decides (cfg : Config) :
    ((∃ c, ofConfig cfg = .ok c) ↔ cfg.Sound) ∧
    (∀ c, ofConfig cfg = .ok c ↔ cfg.Sound ∧ c.alphabet = cfg.alphabet.toList ∧
      c.minLength = cfg.minLength ∧ c.chunkSize = cfg.chunkSize ∧
      c.delimiter = cfg.delimiter.toList.head?) ∧
    ∀ f, ofConfig cfg = .error f ↔ cfg.FirstFault f := by
  rcases cfg.sound_or_firstFault with hsound | ⟨f, hf⟩
  · obtain ⟨c, hc, halphabet, hmin, hchunk, hdelimiter⟩ := ofConfig_of_sound hsound
    refine ⟨iff_of_true ⟨c, hc⟩ hsound, fun c' => ?_, fun g => ?_⟩
    · rw [hc, Except.ok.injEq]
      constructor
      · rintro rfl
        exact ⟨hsound, halphabet, hmin, hchunk, hdelimiter⟩
      · rintro ⟨-, halphabet', hmin', hchunk', hdelimiter'⟩
        cases c
        cases c'
        simp_all
    · rw [hc]
      refine iff_of_false nofun ?_
      rintro ⟨place, hg, -⟩
      exact hsound.not_faultAt place g hg
  · have herror := ofConfig_of_firstFault hf
    have hunsound : ¬ cfg.Sound := by
      obtain ⟨place, hfault, -⟩ := hf
      exact fun hsound => hsound.not_faultAt place f hfault
    refine ⟨iff_of_false ?_ hunsound, fun c => ?_, fun g => ?_⟩
    · rintro ⟨c, hc⟩
      cases herror.symm.trans hc
    · rw [herror]
      exact iff_of_false nofun fun h => hunsound h.1
    · rw [herror, Except.error.injEq]
      constructor
      · rintro rfl
        exact hf
      · intro hg
        exact Except.error.inj (herror.symm.trans (ofConfig_of_firstFault hg))

/-- Both symbols come twice, and one of them is the delimiter. The leftmost fault is told. -/
example : Scheme.ofConfig { alphabet := "a##a", delimiter := "#" } =
    .error (.symbolIsDelimiter '#') := by
  decide +kernel

end Scheme

end VisitBooking.Reference
