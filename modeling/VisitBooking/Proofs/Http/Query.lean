import Mathlib.Data.List.Forall2
import VisitBooking.Proofs.Http.Encoding
import VisitBooking.Proofs.Http.Target
import VisitBooking.Proofs.Json.ReadBack
import VisitBooking.Proofs.Text.Stray

/-!
# What segments and queries say

The grammar of a segment of a path and of a query, with what they say, apart from how they are taken
apart. An escape stands for one byte; the bytes of a segment have to be those of a text, while in a
query what belongs to no character is replaced. A query is made of parts with an ampersand between
them, and a part that is not empty has a name and, after the first equals sign, a value. A filter
has what a name stands for if the name comes once and nothing if it does not come; it is no filter
if a name comes twice or what it stands for is not understood.

Each rule of the grammar has one equivalence with the function that reads it.

## Main definitions

* `HexDigit`, `Unescaped`: escapes.
* `SegmentSays`, `PartSays`: the text that a segment or a part of a query stands for.
* `QuerySays`: names and values of a query.
* `FieldSays`, `FilterSays`: what a filter asks for.

## Main results

* `percentDecoded_eq_iff`, `segmentText?_eq_some_iff`, `queryPairs_eq_iff`: escapes, segments and
  queries are read as what they say.
* `filterOfPairs?_eq_some_iff`: so are filters.
-/

namespace VisitBooking.Http

open Text Calendar

/-! ### Escapes -/

/-- The byte is a hexadecimal digit of the value `x`. -/
def HexDigit (b x : UInt8) : Prop :=
  (x < 10 ∧ b = 0x30 + x) ∨ (10 ≤ x ∧ x < 16 ∧ (b = 0x37 + x ∨ b = 0x57 + x))

/-- An escape, the byte that it stands for, and what follows it. -/
inductive Escape : List UInt8 → UInt8 → List UInt8 → Prop
  | intro {h l x y : UInt8} (hh : HexDigit h x) (hl : HexDigit l y) (rest : List UInt8) :
      Escape (0x25 :: h :: l :: rest) (x * 16 + y) rest

/-- The bytes `t` are meant by `s`: an escape stands for one byte, and a byte with which no escape
begins for itself. -/
inductive Unescaped : List UInt8 → List UInt8 → Prop
  | nil : Unescaped [] []
  | escape {s rest t : List UInt8} {b : UInt8} (hescape : Escape s b rest)
      (h : Unescaped rest t) : Unescaped s (b :: t)
  | byte (b : UInt8) {s t : List UInt8} (hnone : ∀ b' rest, ¬ Escape (b :: s) b' rest)
      (h : Unescaped s t) : Unescaped (b :: s) (b :: t)

theorem hexDigit_of_hexByte? : ∀ b : UInt8, ∀ x ∈ hexByte? b, HexDigit b x := by
  refine forall_byte ?_
  unfold HexDigit
  decide +kernel

theorem hexByte?_of_hexDigit : ∀ x : UInt8, (x < 10 → hexByte? (0x30 + x) = some x) ∧
    (10 ≤ x → x < 16 → hexByte? (0x37 + x) = some x ∧ hexByte? (0x57 + x) = some x) :=
  forall_byte (by decide +kernel)

theorem hexByte?_eq_some_iff {b x : UInt8} : hexByte? b = some x ↔ HexDigit b x := by
  refine ⟨fun h => hexDigit_of_hexByte? b x h, ?_⟩
  obtain ⟨hdigit, hletter⟩ := hexByte?_of_hexDigit x
  rintro (⟨hx, rfl⟩ | ⟨hten, hx, rfl | rfl⟩)
  · exact hdigit hx
  · exact (hletter hten hx).1
  · exact (hletter hten hx).2

theorem percentDecoded_of_escape {s rest : List UInt8} {b : UInt8} (h : Escape s b rest) :
    percentDecoded s = b :: percentDecoded rest := by
  obtain ⟨hh, hl, rest⟩ := h
  exact percentDecoded_triple (hexByte?_eq_some_iff.2 hh) (hexByte?_eq_some_iff.2 hl) rest

/-- Either an escape begins here, or the first byte is left as it is. -/
theorem escape_or_percentDecoded_cons (b : UInt8) (s : List UInt8) :
    (∃ b' rest, Escape (b :: s) b' rest ∧ rest.length < s.length) ∨
      (∀ b' rest, ¬ Escape (b :: s) b' rest) ∧ percentDecoded (b :: s) = b :: percentDecoded s := by
  by_cases hb : b = 0x25
  · subst hb
    rcases s with _ | ⟨h, _ | ⟨l, rest⟩⟩
    · exact .inr ⟨by rintro _ _ ⟨⟩, by rw [percentDecoded]; simp⟩
    · exact .inr ⟨by rintro _ _ ⟨⟩, by rw [percentDecoded]; simp⟩
    case cons.cons =>
      rw [percentDecoded]
      split
      · rename_i x y hx hy
        exact .inl ⟨_, rest, .intro (hexByte?_eq_some_iff.1 hx) (hexByte?_eq_some_iff.1 hy) rest,
          by simp only [List.length_cons]; omega⟩
      · rename_i hnot
        refine .inr ⟨?_, rfl⟩
        rintro b' rest ⟨hh, hl⟩
        exact hnot _ _ (hexByte?_eq_some_iff.2 hh) (hexByte?_eq_some_iff.2 hl)
  · refine .inr ⟨?_, percentDecoded_cons_of_ne hb s⟩
    rintro b' rest ⟨-, -⟩
    exact hb rfl

theorem unescaped_percentDecoded (s : List UInt8) : Unescaped s (percentDecoded s) := by
  induction hn : s.length using Nat.strongRecOn generalizing s with
  | ind n ih =>
    subst hn
    cases s with
    | nil => exact .nil
    | cons b s =>
      rcases escape_or_percentDecoded_cons b s with ⟨b', rest, h, hlt⟩ | ⟨hnone, heq⟩
      · rw [percentDecoded_of_escape h]
        exact .escape h (ih rest.length (Nat.lt_succ_of_lt hlt) rest rfl)
      · rw [heq]
        exact .byte b hnone (ih s.length (Nat.lt_succ_self _) s rfl)

/-- **Escapes are read as what they stand for.** -/
theorem percentDecoded_eq_iff {s t : List UInt8} : percentDecoded s = t ↔ Unescaped s t := by
  refine ⟨fun h => h ▸ unescaped_percentDecoded s, fun h => ?_⟩
  induction h with
  | nil => rfl
  | escape hescape _ ih => rw [percentDecoded_of_escape hescape, ih]
  | @byte b s t hnone _ ih =>
    rcases escape_or_percentDecoded_cons b s with ⟨b', rest, h, -⟩ | ⟨-, heq⟩
    · exact absurd h (hnone b' rest)
    · rw [heq, ih]

/-! ### Segments -/

/-- The text that a segment of a path stands for. -/
def SegmentSays (segment : List Char) (text : String) : Prop :=
  Unescaped (segment.flatMap String.utf8EncodeChar) (text.toList.flatMap String.utf8EncodeChar)

/-- **A segment is read as what it says.** -/
theorem segmentText?_eq_some_iff {segment : List Char} {text : String} :
    segmentText? segment = some text ↔ SegmentSays segment text := by
  rw [segmentText?, Utf8.text?_eq_some_iff, percentDecoded_eq_iff, SegmentSays, Utf8.bytes_ofList,
    ← Utf8.bytes_ofList text.toList, String.ofList_toList]

theorem segmentText?_eq_none_iff {segment : List Char} :
    segmentText? segment = none ↔ ∀ text, ¬ SegmentSays segment text := by
  simp only [Option.eq_none_iff_forall_ne_some, ne_eq, segmentText?_eq_some_iff]

/-! ### Names and values -/

/-- A blank for a plus sign. -/
def unplus (c : Char) : Char := if c = '+' then ' ' else c

/-- What is shown of a piece: a replacement for bytes that belong to no character. -/
def shown : Utf8.Piece → Char
  | .char c => c
  | .stray _ => '\ufffd'

/-- The text that a part of a query stands for. -/
inductive PartSays (part : List Char) : String → Prop
  | intro {bytes : List UInt8} {ps : List Utf8.Piece}
      (hbytes : Unescaped ((part.map unplus).flatMap String.utf8EncodeChar) bytes)
      (hcut : Utf8.Cut bytes ps) : PartSays part (String.ofList (ps.map shown))

/-- The name and the value of a part; a value that is missing is empty. -/
inductive PairSays : List Char → String × String → Prop
  | intro {name : List Char} {value : Option (List Char)} {n v : String} (hname : '=' ∉ name)
      (hn : PartSays name n) (hv : PartSays (value.getD []) v) :
      PairSays (name ++ opened '=' value) (n, v)

/-- The names and values of a query, in order. -/
inductive QuerySays : List Char → List (String × String) → Prop
  | intro (first : List Char) (rest : List (List Char)) {pairs : List (String × String)}
      (hparts : ∀ part ∈ first :: rest, '&' ∉ part)
      (hpairs : List.Forall₂ PairSays ((first :: rest).filter (· ≠ [])) pairs) :
      QuerySays (first ++ rest.flatMap ('&' :: ·)) pairs

theorem queryText_eq_iff {part : List Char} {text : String} :
    queryText part = text ↔ PartSays part text := by
  have hshown : ∀ ps : List Utf8.Piece, (ps.map fun p => p.char?.getD '\ufffd') = ps.map shown :=
    fun ps => List.map_congr_left fun p _ => by cases p <;> rfl
  have htext : queryText part = String.ofList ((Utf8.pieces (percentDecoded
      ((part.map unplus).flatMap String.utf8EncodeChar))).map shown) := by
    rw [queryText, Utf8.lossyText, hshown, Utf8.bytes_ofList]
    rfl
  rw [htext]
  constructor
  · rintro rfl
    exact .intro (percentDecoded_eq_iff.1 rfl) (Utf8.pieces_eq_iff.1 rfl)
  · rintro ⟨hbytes, hcut⟩
    rw [percentDecoded_eq_iff.2 hbytes, Utf8.pieces_eq_iff.2 hcut]

/-- The name and the value that a part is read as. -/
def pairOf (part : List Char) : String × String :=
  (queryText (cutAt '=' part).1, queryText ((cutAt '=' part).2.getD []))

theorem pairOf_eq_iff {part : List Char} {p : String × String} :
    pairOf part = p ↔ PairSays part p := by
  constructor
  · rintro rfl
    rcases hcut : cutAt '=' part with ⟨name, value⟩
    obtain ⟨hpart, hname⟩ := cutAt_eq_iff.1 hcut
    rw [pairOf, hcut, hpart]
    exact .intro hname (queryText_eq_iff.1 rfl) (queryText_eq_iff.1 rfl)
  · rintro ⟨hname, hn, hv⟩
    rw [pairOf, cutAt_append hname, queryText_eq_iff.2 hn, queryText_eq_iff.2 hv]

/-- **A query is read as what it says.** -/
theorem queryPairs_eq_iff {query : List Char} {pairs : List (String × String)} :
    queryPairs query = pairs ↔ QuerySays query pairs := by
  have hpairs : ∀ parts : List (List Char), parts.map pairOf = pairs ↔
      List.Forall₂ PairSays parts pairs := by
    intro parts
    rw [← List.forall₂_eq_eq_eq, List.forall₂_map_left_iff]
    simp only [pairOf_eq_iff]
  obtain ⟨first, rest, hquery⟩ : ∃ first rest, pieces (· == '&') query = first :: rest := by
    obtain ⟨first, rest, hquery, hparts⟩ := exists_eq_append_flatMap '&' query
    exact ⟨first, rest, pieces_eq_cons_iff.2 ⟨hquery, hparts⟩⟩
  have hread : queryPairs query = ((first :: rest).filter (· ≠ [])).map pairOf := by
    rw [queryPairs, hquery]
    rfl
  rw [hread, hpairs]
  constructor
  · intro h
    obtain ⟨rfl, hparts⟩ := pieces_eq_cons_iff.1 hquery
    exact .intro first rest hparts h
  · rintro ⟨first', rest', hparts, h⟩
    rw [pieces_append_flatMap hparts] at hquery
    cases hquery
    exact h

/-! ### Filters -/

/-- What a filter asks for under a name: nothing if the name does not come, and what its value
stands for if it comes once. -/
inductive FieldSays {α : Type} (Means : String → α → Prop) (name : String) :
    List (String × String) → Option α → Prop
  | absent {pairs : List (String × String)} (h : ∀ p ∈ pairs, p.1 ≠ name) :
      FieldSays Means name pairs none
  | once {before after : List (String × String)} {value : String} {a : α} (h : Means value a)
      (hbefore : ∀ p ∈ before, p.1 ≠ name) (hafter : ∀ p ∈ after, p.1 ≠ name) :
      FieldSays Means name (before ++ (name, value) :: after) (some a)

/-- The text is an integer: decimal digits, with one sign allowed in front. -/
inductive IntegerSays : String → Int → Prop
  | plain {s : String} (hne : s.toList ≠ []) (h : ∀ c ∈ s.toList, c.isDigit) :
      IntegerSays s (Nat.ofDigitChars 10 s.toList 0)
  | plus {s : String} {digits : List Char} (hs : s.toList = '+' :: digits) (hne : digits ≠ [])
      (h : ∀ c ∈ digits, c.isDigit) : IntegerSays s (Nat.ofDigitChars 10 digits 0)
  | minus {s : String} {digits : List Char} (hs : s.toList = '-' :: digits) (hne : digits ≠ [])
      (h : ∀ c ∈ digits, c.isDigit) : IntegerSays s (-Nat.ofDigitChars 10 digits 0)

/-- What the names and values of a query ask for. Other names are passed over. -/
structure FilterSays (pairs : List (String × String)) (f : VisitFilter) : Prop where
  prisoner : FieldSays Eq "prisonerId" pairs f.prisoner
  prison : FieldSays Eq "prisonId" pairs f.prison
  room : FieldSays Eq "visitRoom" pairs f.room
  starts : FieldSays (fun s t => LocalTime.ofWire? s = some t) "startTimestamp" pairs f.starts
  ends : FieldSays (fun s t => LocalTime.ofWire? s = some t) "endTimestamp" pairs f.ends
  status : FieldSays (fun s a => Enumeration.name a = s) "visitStatus" pairs f.status
  person : FieldSays (fun s (i : Int64) => IntegerSays s i.toInt) "nomisPersonId" pairs f.person

theorem filter_name_eq_nil {name : String} {pairs : List (String × String)} :
    pairs.filter (fun p => p.1 == name) = [] ↔ ∀ p ∈ pairs, p.1 ≠ name := by
  simp only [List.filter_eq_nil_iff, beq_iff_eq, ne_eq]

theorem queryField?_eq_some_iff {α : Type} {read? : String → Option α} {Means : String → α → Prop}
    (hread : ∀ s a, read? s = some a ↔ Means s a) {name : String}
    {pairs : List (String × String)} {o : Option α} :
    Request.queryField? read? name pairs = some o ↔ FieldSays Means name pairs o := by
  constructor
  · intro h
    rw [Request.queryField?] at h
    split at h
    case h_1 hnil =>
      cases h
      exact .absent (filter_name_eq_nil.1 hnil)
    case h_2 n value hone =>
      obtain ⟨a, ha, rfl⟩ := Option.map_eq_some_iff.1 h
      obtain ⟨before, after, rfl, hbefore, hn, hafter⟩ := List.filter_eq_cons_iff.1 hone
      obtain rfl : n = name := by simpa using hn
      exact .once ((hread value a).1 ha) (by simpa using hbefore) (filter_name_eq_nil.1 hafter)
    case h_3 => cases h
  · rintro (hpairs | ⟨h, hbefore, hafter⟩)
    · rw [Request.queryField?, filter_name_eq_nil.2 hpairs]
    · rw [Request.queryField?, List.filter_append, filter_name_eq_nil.2 hbefore,
        List.filter_cons_of_pos (by simp), filter_name_eq_nil.2 hafter]
      simp only [List.nil_append, (hread _ _).2 h, Option.map_some]

theorem integer?_eq_some_iff {s : String} {i : Int} :
    integer? s.toList = some i ↔ IntegerSays s i := by
  have hdigits : ∀ ds : List Char, (ds ≠ [] ∧ ds.all Char.isDigit) ↔
      ds ≠ [] ∧ ∀ c ∈ ds, c.isDigit := fun ds => and_congr_right' List.all_eq_true
  have hsign : ∀ {c : Char} {ds : List Char}, c.isDigit = false →
      ¬ ∀ x ∈ c :: ds, x.isDigit := fun hc h => by simp [hc] at h
  unfold integer?
  constructor
  · intro h
    dsimp only at h
    split at h
    all_goals
      simp only [hdigits] at h
      split at h
      case isFalse => cases h
      case isTrue hds => ?_
    · cases h
      exact .minus ‹_› hds.1 hds.2
    · cases h
      exact .plus ‹_› hds.1 hds.2
    · cases h
      exact .plain hds.1 hds.2
  · rintro (⟨hne, h⟩ | ⟨hs, hne, h⟩ | ⟨hs, hne, h⟩)
    · split
      · rename_i hs
        exact absurd (hs ▸ h) (hsign rfl)
      · rename_i hs
        exact absurd (hs ▸ h) (hsign rfl)
      · simp only [if_pos ((hdigits _).2 ⟨hne, h⟩)]
        rfl
    · simp only [hs, if_pos ((hdigits _).2 ⟨hne, h⟩)]
      rfl
    · simp only [hs, if_pos ((hdigits _).2 ⟨hne, h⟩)]
      rfl

theorem int64OfText?_eq_some_iff {s : String} {i : Int64} :
    Request.int64OfText? s = some i ↔ IntegerSays s i.toInt := by
  rw [Request.int64OfText?, Option.bind_eq_some_iff]
  constructor
  · rintro ⟨n, hn, hi⟩
    rw [toInt_of_int64OfInt? hi]
    exact integer?_eq_some_iff.1 hn
  · exact fun h => ⟨i.toInt, integer?_eq_some_iff.2 h, Json.int64OfInt?_toInt i⟩

theorem named?_eq_some_iff {α : Type} [Enumeration α] {s : String} {a : α} :
    Enumeration.named? s = some a ↔ Enumeration.name a = s :=
  ⟨Enumeration.name_of_named?, fun h => h ▸ Enumeration.named?_name a⟩

/-- **A filter is read as what it asks for.** -/
theorem filterOfPairs?_eq_some_iff {pairs : List (String × String)} {f : VisitFilter} :
    Request.filterOfPairs? pairs = some f ↔ FilterSays pairs f := by
  have htext {name : String} {o : Option String} :
      Request.queryField? some name pairs = some o ↔ FieldSays Eq name pairs o :=
    queryField?_eq_some_iff fun _ _ => Option.some_inj
  have htime {name : String} {o : Option LocalTime} :
      Request.queryField? LocalTime.ofWire? name pairs = some o ↔
        FieldSays (fun s t => LocalTime.ofWire? s = some t) name pairs o :=
    queryField?_eq_some_iff fun _ _ => Iff.rfl
  have hstatus {o : Option VisitStatus} :
      Request.queryField? Enumeration.named? "visitStatus" pairs = some o ↔
        FieldSays (fun s a => Enumeration.name a = s) "visitStatus" pairs o :=
    queryField?_eq_some_iff fun _ _ => named?_eq_some_iff
  have hperson {o : Option Int64} :
      Request.queryField? Request.int64OfText? "nomisPersonId" pairs = some o ↔
        FieldSays (fun s (i : Int64) => IntegerSays s i.toInt) "nomisPersonId" pairs o :=
    queryField?_eq_some_iff fun _ _ => int64OfText?_eq_some_iff
  simp only [Request.filterOfPairs?, bind, Option.bind_eq_some_iff, htext, htime, hstatus, hperson]
  constructor
  · rintro ⟨_, hprisoner, _, hprison, _, hroom, _, hstarts, _, hends, _, hstatus, _, hperson, ⟨⟩⟩
    exact ⟨hprisoner, hprison, hroom, hstarts, hends, hstatus, hperson⟩
  · rintro ⟨hprisoner, hprison, hroom, hstarts, hends, hstatus, hperson⟩
    exact ⟨_, hprisoner, _, hprison, _, hroom, _, hstarts, _, hends, _, hstatus, _, hperson, rfl⟩

end VisitBooking.Http
