import Mathlib.Data.List.TakeDrop
import Mathlib.Data.List.TakeWhile
import VisitBooking.Http.MediaType

/-!
# The grammar of the media type of JSON

The subtype is `json`, with or without a suffix, or has the suffix `json`. What follows a semicolon
is a list of parameters: each has a name and a value, which is a token or stands between quotes, and
only the last one may lack its value or be missing altogether. Small and capital letters are the
same.

What the reader is to accept from one of its states on is told by the grammar too
(`ParameterState.Allows`), so that the induction is on the text alone: one lemma says for each state
what one character more leaves to be accepted.

## Main definitions

* `TokenText`, `ParameterValue`, `Parameters`: the grammar of parameters.
* `JsonSubtype`, `JsonType`: the grammar of the media type.

## Main results

* `areParameters_iff`, `isJsonType_iff`: what is accepted is what the grammar allows.
-/

namespace VisitBooking.Http

/-- The text is made of the characters of names. -/
def TokenText (s : List Char) : Prop :=
  ∀ c ∈ s, c.isAlphanum = true ∨ c ∈ "!#$%&'*+-.^_\x60|~".toList

/-- The character may stand between quotes. -/
def QuotedChar (c : Char) : Prop := 0x20 ≤ c.toNat ∧ c.toNat ≤ 0x7E

/-- Nothing but blanks. -/
def Blanks (s : List Char) : Prop := ∀ c ∈ s, c = ' '

/-- What stands up to the closing quote, and blanks after it. -/
inductive Quoted : List Char → Prop
  | intro {s blanks : List Char} (h : ∀ c ∈ s, QuotedChar c ∧ c ≠ '"') (hblanks : Blanks blanks) :
      Quoted (s ++ '"' :: blanks)

/-- The value of a parameter. What follows the opening quote belongs to it even if it is a quote. -/
inductive ParameterValue : List Char → Prop
  | token {s : List Char} (hne : s ≠ []) (h : TokenText s) : ParameterValue s
  | quoted {c : Char} {s : List Char} (hc : QuotedChar c) (h : Quoted s) :
      ParameterValue ('"' :: c :: s)

/-- A list of parameters. -/
inductive Parameters : List Char → Prop
  | none {blanks : List Char} (hblanks : Blanks blanks) : Parameters blanks
  | last {blanks name value : List Char} (hblanks : Blanks blanks) (hne : name ≠ [])
      (hname : TokenText name) (hvalue : value = [] ∨ ParameterValue value) :
      Parameters (blanks ++ (name ++ '=' :: value))
  | more {blanks name value rest : List Char} (hblanks : Blanks blanks) (hne : name ≠ [])
      (hname : TokenText name) (hvalue : ParameterValue value) (hrest : Parameters rest) :
      Parameters (blanks ++ (name ++ '=' :: (value ++ ';' :: rest)))

/-- A subtype that is `json` or has the suffix `json`. The suffix stands after the last plus sign,
unless that is at the beginning. -/
inductive JsonSubtype : List Char → Prop
  | plain : JsonSubtype "json".toList
  | suffixed {suffix : List Char} (h : '+' ∉ suffix) : JsonSubtype ("json".toList ++ '+' :: suffix)
  | suffix {name : List Char} (hne : name ≠ []) : JsonSubtype (name ++ "+json".toList)

/-- The media type of JSON. -/
inductive JsonType (s : String) : Prop
  | bare {subtype : List Char}
      (hs : s.toList.map Char.toLower = "application/".toList ++ subtype)
      (hsubtype : TokenText subtype) (hjson : JsonSubtype subtype)
  | parametrized {subtype parameters : List Char}
      (hs : s.toList.map Char.toLower = "application/".toList ++ subtype ++ ';' :: parameters)
      (hsubtype : TokenText subtype) (hjson : JsonSubtype subtype)
      (hparameters : Parameters parameters)

/-! ### Parameters -/

variable {c : Char} {s : List Char} {state : ParameterState}

theorem isTokenChar_iff : isTokenChar c = true ↔
    c.isAlphanum = true ∨ c ∈ "!#$%&'*+-.^_\x60|~".toList := by
  rw [isTokenChar, Bool.or_eq_true, List.contains_iff_mem]
  rfl

theorem isQuotedChar_iff : isQuotedChar c = true ↔ QuotedChar c := by
  rw [isQuotedChar, Bool.and_eq_true, decide_eq_true_iff, decide_eq_true_iff, QuotedChar]

/-- What stands before the next semicolon is told by `tail`, and behind it are parameters; or there
is no semicolon. -/
def Ends (tail : List Char → Prop) (s : List Char) : Prop :=
  tail s ∨ ∃ value rest, s = value ++ ';' :: rest ∧ tail value ∧ Parameters rest

/-- What the reader is to accept in each state. -/
def ParameterState.Allows : ParameterState → List Char → Prop
  | .before, s => Parameters s
  | .name, s => ∃ name value, s = name ++ '=' :: value ∧ TokenText name ∧
      (value = [] ∨ Ends ParameterValue value)
  | .equals, s => s = [] ∨ Ends ParameterValue s
  | .value, s => Ends TokenText s
  | .quote, s => Ends (fun s => ∃ c t, s = c :: t ∧ QuotedChar c ∧ Quoted t) s
  | .quoted, s => Ends Quoted s
  | .closed, s => Ends Blanks s

/-! ### What one character more leaves to be accepted -/

variable {tail tail' : List Char → Prop}

theorem Ends.congr (h : ∀ t, tail t ↔ tail' t) : Ends tail s ↔ Ends tail' s := by
  simp only [Ends, h]

theorem ends_and {p : Prop} : Ends (fun t => p ∧ tail t) s ↔ p ∧ Ends tail s := by
  simp only [Ends]
  grind

theorem ends_or : Ends (fun t => tail t ∨ tail' t) s ↔ Ends tail s ∨ Ends tail' s := by
  simp only [Ends]
  grind

/-- A character that does not end the part belongs to it. -/
theorem ends_cons (hc : c = ';' → ¬ tail []) :
    Ends tail (c :: s) ↔ Ends (fun t => tail (c :: t)) s := by
  refine or_congr Iff.rfl ⟨?_, ?_⟩
  · rintro ⟨value, rest, heq, hvalue, hrest⟩
    cases value with
    | nil =>
      cases heq
      exact absurd hvalue (hc rfl)
    | cons x value =>
      cases heq
      exact ⟨value, rest, rfl, hvalue, hrest⟩
  · rintro ⟨value, rest, rfl, hvalue, hrest⟩
    exact ⟨c :: value, rest, rfl, hvalue, hrest⟩

/-- A semicolon that cannot belong to the part ends it. -/
theorem ends_semicolon (h : ∀ t, ¬ tail (';' :: t)) :
    Ends tail (';' :: s) ↔ tail [] ∧ Parameters s := by
  constructor
  · rintro (hs | ⟨value, rest, heq, hvalue, hrest⟩)
    · exact absurd hs (h s)
    · cases value with
      | nil =>
        cases heq
        exact ⟨hvalue, hrest⟩
      | cons x value =>
        cases heq
        exact absurd hvalue (h value)
  · rintro ⟨hnil, hs⟩
    exact .inr ⟨[], s, rfl, hnil, hs⟩

theorem tokenText_cons : TokenText (c :: s) ↔ isTokenChar c = true ∧ TokenText s := by
  rw [TokenText, List.forall_mem_cons, isTokenChar_iff]
  rfl

theorem blanks_cons : Blanks (c :: s) ↔ c = ' ' ∧ Blanks s := List.forall_mem_cons

theorem quoted_cons : Quoted (c :: s) ↔
    c = '"' ∧ Blanks s ∨ (QuotedChar c ∧ c ≠ '"') ∧ Quoted s := by
  constructor
  · intro h
    generalize ht : c :: s = t at h
    obtain @⟨u, blanks, h, hblanks⟩ := h
    cases u with
    | nil =>
      cases ht
      exact .inl ⟨rfl, hblanks⟩
    | cons x u =>
      cases ht
      obtain ⟨hx, hu⟩ := List.forall_mem_cons.1 h
      exact .inr ⟨hx, .intro hu hblanks⟩
  · rintro (⟨rfl, hs⟩ | ⟨hc, @⟨u, blanks, h, hblanks⟩⟩)
    · exact .intro (fun _ h => absurd h List.not_mem_nil) hs
    · exact .intro (List.forall_mem_cons.2 ⟨hc, h⟩) hblanks

theorem not_quoted_nil : ¬ Quoted [] := by
  intro h
  generalize ht : ([] : List Char) = t at h
  obtain @⟨u, blanks, -, -⟩ := h
  simp at ht

theorem parameterValue_cons : ParameterValue (c :: s) ↔
    c = '"' ∧ (∃ x t, s = x :: t ∧ QuotedChar x ∧ Quoted t) ∨
      isTokenChar c = true ∧ TokenText s := by
  constructor
  · intro h
    generalize ht : c :: s = t at h
    cases h with
    | token hne h =>
      subst ht
      exact .inr (tokenText_cons.1 h)
    | quoted hc h =>
      cases ht
      exact .inl ⟨rfl, _, _, rfl, hc, h⟩
  · rintro (⟨rfl, x, t, rfl, hx, ht⟩ | h)
    · exact .quoted hx ht
    · exact .token (List.cons_ne_nil _ _) (tokenText_cons.2 h)

theorem not_parameterValue_nil : ¬ ParameterValue [] := by
  rintro ⟨hne, -⟩
  exact hne rfl

/-- Parameters are blanks and then nothing or a name, with what may follow it. -/
theorem parameters_iff : Parameters s ↔ ∃ blanks rest, s = blanks ++ rest ∧ Blanks blanks ∧
    (rest = [] ∨ ∃ c t, rest = c :: t ∧ isTokenChar c = true ∧ ParameterState.name.Allows t) := by
  have hnamed : ∀ {name value : List Char}, name ≠ [] → TokenText name →
      (value = [] ∨ Ends ParameterValue value) → ∃ c t, name ++ '=' :: value = c :: t ∧
        isTokenChar c = true ∧ ParameterState.name.Allows t := by
    intro name value hne hname hvalue
    obtain ⟨c, name, rfl⟩ := List.exists_cons_of_ne_nil hne
    obtain ⟨hc, hname⟩ := tokenText_cons.1 hname
    exact ⟨c, _, rfl, hc, name, value, rfl, hname, hvalue⟩
  constructor
  · intro h
    obtain hblanks | ⟨hblanks, hne, hname, hvalue⟩ | ⟨hblanks, hne, hname, hvalue, hrest⟩ := h
    · exact ⟨s, [], (List.append_nil s).symm, hblanks, .inl rfl⟩
    · exact ⟨_, _, rfl, hblanks, .inr (hnamed hne hname (hvalue.imp_right .inl))⟩
    · exact ⟨_, _, rfl, hblanks, .inr (hnamed hne hname (.inr (.inr ⟨_, _, rfl, hvalue, hrest⟩)))⟩
  · rintro ⟨blanks, _, rfl, hblanks, rfl | ⟨c, _, rfl, hc, name, value, rfl, hname, hvalue⟩⟩
    · rw [List.append_nil]
      exact .none hblanks
    · have hname : TokenText (c :: name) := tokenText_cons.2 ⟨hc, hname⟩
      have hne : c :: name ≠ [] := List.cons_ne_nil _ _
      rcases hvalue with rfl | hvalue | ⟨value, rest, rfl, hvalue, hrest⟩
      · exact .last hblanks hne hname (.inl rfl)
      · exact .last hblanks hne hname (.inr hvalue)
      · exact .more hblanks hne hname hvalue hrest

theorem parameters_cons : Parameters (c :: s) ↔
    c = ' ' ∧ Parameters s ∨ isTokenChar c = true ∧ ParameterState.name.Allows s := by
  rw [parameters_iff, parameters_iff]
  constructor
  · rintro ⟨blanks, rest, heq, hblanks, hrest⟩
    cases blanks with
    | nil =>
      subst heq
      rcases hrest with h | ⟨_, _, heq, hc, hs⟩
      · cases h
      · cases heq
        exact .inr ⟨hc, hs⟩
    | cons b blanks =>
      cases heq
      obtain ⟨hc, htail⟩ := blanks_cons.1 hblanks
      exact .inl ⟨hc, blanks, rest, rfl, htail, hrest⟩
  · rintro (⟨rfl, blanks, rest, rfl, hblanks, hrest⟩ | ⟨hc, hs⟩)
    · exact ⟨' ' :: blanks, rest, rfl, blanks_cons.2 ⟨rfl, hblanks⟩, hrest⟩
    · exact ⟨[], c :: s, rfl, fun _ h => absurd h List.not_mem_nil, .inr ⟨c, s, rfl, hc, hs⟩⟩

theorem allows_name_cons : ParameterState.name.Allows (c :: s) ↔
    c = '=' ∧ ParameterState.equals.Allows s ∨
      isTokenChar c = true ∧ ParameterState.name.Allows s := by
  constructor
  · rintro ⟨name, value, heq, hname, hvalue⟩
    cases name with
    | nil =>
      cases heq
      exact .inl ⟨rfl, hvalue⟩
    | cons x name =>
      cases heq
      obtain ⟨hc, hname⟩ := tokenText_cons.1 hname
      exact .inr ⟨hc, name, value, rfl, hname, hvalue⟩
  · rintro (⟨rfl, hs⟩ | ⟨hc, name, value, rfl, hname, hvalue⟩)
    · exact ⟨[], s, rfl, fun _ h => absurd h List.not_mem_nil, hs⟩
    · exact ⟨c :: name, value, rfl, tokenText_cons.2 ⟨hc, hname⟩, hvalue⟩

theorem exists_mem_ite {p : Prop} [Decidable p] {next : ParameterState}
    {other : Option ParameterState} :
    (∃ q ∈ if p then some next else other, q.Allows s) ↔
      p ∧ next.Allows s ∨ ¬ p ∧ ∃ q ∈ other, q.Allows s := by
  by_cases hp : p <;> simp [hp]

/-- One character more. -/
theorem allows_cons : state.Allows (c :: s) ↔
    ∃ next ∈ ParameterState.step? c state, next.Allows s := by
  have htoken : isTokenChar ' ' = false ∧ isTokenChar '=' = false ∧ isTokenChar '"' = false ∧
      isTokenChar ';' = false := by decide
  have hnone : ¬ ∃ q ∈ (none : Option ParameterState), q.Allows s := by simp
  cases state with
  | before =>
    rw [ParameterState.step?, exists_mem_ite, exists_mem_ite]
    refine parameters_cons.trans ?_
    grind [ParameterState.Allows]
  | name =>
    rw [ParameterState.step?, exists_mem_ite, exists_mem_ite, allows_name_cons]
    grind
  | equals =>
    rw [ParameterState.step?, exists_mem_ite, exists_mem_ite]
    have hends : ParameterState.equals.Allows (c :: s) ↔ Ends ParameterValue (c :: s) :=
      or_iff_right (List.cons_ne_nil c s)
    rw [hends, ends_cons fun _ => not_parameterValue_nil, Ends.congr fun _ => parameterValue_cons,
      ends_or, ends_and, ends_and]
    grind [ParameterState.Allows]
  | value =>
    rw [ParameterState.step?, exists_mem_ite, exists_mem_ite]
    show Ends TokenText (c :: s) ↔ _
    by_cases hc : c = ';'
    · subst hc
      rw [ends_semicolon fun t h => by simp [tokenText_cons, htoken] at h]
      grind [ParameterState.Allows, TokenText]
    · rw [ends_cons fun h => absurd h hc, Ends.congr fun _ => tokenText_cons, ends_and]
      grind [ParameterState.Allows]
  | quote =>
    rw [ParameterState.step?, exists_mem_ite]
    show Ends (fun s => ∃ c t, s = c :: t ∧ QuotedChar c ∧ Quoted t) (c :: s) ↔ _
    have hhead : ∀ t, (∃ d u, c :: t = d :: u ∧ QuotedChar d ∧ Quoted u) ↔
        QuotedChar c ∧ Quoted t := by simp
    rw [ends_cons fun _ => by simp, Ends.congr hhead, ends_and, isQuotedChar_iff]
    grind [ParameterState.Allows]
  | quoted =>
    rw [ParameterState.step?, exists_mem_ite, exists_mem_ite]
    show Ends Quoted (c :: s) ↔ _
    rw [ends_cons fun _ => not_quoted_nil, Ends.congr fun _ => quoted_cons, ends_or, ends_and,
      ends_and, isQuotedChar_iff]
    grind [ParameterState.Allows]
  | closed =>
    rw [ParameterState.step?, exists_mem_ite, exists_mem_ite]
    show Ends Blanks (c :: s) ↔ _
    by_cases hc : c = ';'
    · subst hc
      rw [ends_semicolon fun t h => by simp [blanks_cons] at h]
      grind [ParameterState.Allows, Blanks]
    · rw [ends_cons fun h => absurd h hc, Ends.congr fun _ => blanks_cons, ends_and]
      grind [ParameterState.Allows]

/-- The text may end where the grammar lets it. -/
theorem allows_nil : state.Allows [] ↔ state.isEnd = true := by
  have hends : ∀ {tail : List Char → Prop}, Ends tail [] ↔ tail [] := by simp [Ends]
  cases state with
  | before => exact iff_of_true (.none fun _ h => absurd h List.not_mem_nil) rfl
  | name => exact iff_of_false (by rintro ⟨name, value, h, -⟩; simp at h) (by decide)
  | equals => exact iff_of_true (.inl rfl) rfl
  | value => exact iff_of_true (.inl fun _ h => absurd h List.not_mem_nil) rfl
  | quote =>
    refine iff_of_false (fun h => ?_) (by decide)
    have hquote : Ends (fun s => ∃ c t, s = c :: t ∧ QuotedChar c ∧ Quoted t) [] := h
    obtain ⟨_, _, hnil, -⟩ := hends.1 hquote
    cases hnil
  | quoted => exact iff_of_false (fun h => not_quoted_nil (hends.1 h)) (by decide)
  | closed => exact iff_of_true (.inl fun _ h => absurd h List.not_mem_nil) rfl

/-- The reader accepts the text from the state on. -/
def ParameterState.accepts (state : ParameterState) (s : List Char) : Bool :=
  match s.foldlM (fun state c => ParameterState.step? c state) state with
  | some state => state.isEnd
  | none => false

theorem ParameterState.accepts_cons : state.accepts (c :: s) =
    ((ParameterState.step? c state).any fun next => next.accepts s) := by
  rw [accepts, List.foldlM_cons]
  cases ParameterState.step? c state <;> rfl

/-- **Parameters are accepted as the grammar has them.** -/
theorem accepts_iff : state.accepts s = true ↔ state.Allows s := by
  induction s generalizing state with
  | nil => exact allows_nil.symm
  | cons c s ih => simp only [ParameterState.accepts_cons, allows_cons, Option.any_eq_true, ih]; rfl

theorem areParameters_iff : areParameters s = true ↔ Parameters s := by
  have h : ParameterState.before.accepts s = true ↔ ParameterState.before.Allows s := accepts_iff
  exact h

/-! ### Subtypes -/

theorem splitSuffix_append {name suffix : List Char} (h : '+' ∉ suffix) :
    splitSuffix (name ++ '+' :: suffix) =
      if name ≠ [] then (name, some suffix) else ('+' :: suffix, none) := by
  have hsuffix : ((name ++ '+' :: suffix).reverse.takeWhile (· ≠ '+')).reverse = suffix := by
    have hall : ∀ c ∈ suffix.reverse, decide (c ≠ '+') = true := fun c hc =>
      decide_eq_true (ne_of_mem_of_not_mem (List.mem_reverse.1 hc) h)
    rw [List.reverse_append, List.reverse_cons, List.append_assoc,
      List.takeWhile_append_of_pos hall, List.singleton_append,
      List.takeWhile_cons_of_neg (by simp), List.append_nil, List.reverse_reverse]
  have hname : (name ++ '+' :: suffix).take ((name ++ '+' :: suffix).length - suffix.length - 1) =
      name := by
    rw [show (name ++ '+' :: suffix).length - suffix.length - 1 = name.length by simp; omega,
      List.take_left]
  simp only [splitSuffix, hsuffix, hname]
  by_cases hnil : name = []
  · simp [hnil]
  · simp [hnil]
    omega

theorem splitSuffix_of_not_mem (h : '+' ∉ s) : splitSuffix s = (s, none) := by
  have hall : s.reverse.takeWhile (· ≠ '+') = s.reverse :=
    List.takeWhile_eq_self_iff.2 fun c hc =>
      decide_eq_true (ne_of_mem_of_not_mem (List.mem_reverse.1 hc) h)
  simp only [splitSuffix, hall, List.reverse_reverse]
  simp

theorem exists_suffix (h : '+' ∈ s) : ∃ name suffix, s = name ++ '+' :: suffix ∧ '+' ∉ suffix := by
  obtain ⟨as, bs, heq, has⟩ := List.eq_append_cons_of_mem (List.mem_reverse.2 h)
  refine ⟨bs.reverse, as.reverse, ?_, fun h => has (List.mem_reverse.1 h)⟩
  rw [← List.reverse_reverse s, heq]
  simp

/-- A subtype is accepted as the grammar has it. -/
theorem splitSuffix_eq_json_iff : (splitSuffix s).1 = "json".toList ∨
    (splitSuffix s).2 = some "json".toList ↔ JsonSubtype s := by
  constructor
  · by_cases hplus : '+' ∈ s
    · obtain ⟨name, suffix, rfl, hsuffix⟩ := exists_suffix hplus
      rw [splitSuffix_append hsuffix]
      split
      · rintro (rfl | h)
        · exact .suffixed hsuffix
        · cases h
          exact .suffix ‹_›
      · rintro (h | h)
        · simp at h
        · cases h
    · rw [splitSuffix_of_not_mem hplus]
      rintro (rfl | h)
      · exact .plain
      · cases h
  · rintro (_ | ⟨hsuffix⟩ | ⟨hne⟩)
    · exact .inl (by decide)
    · rw [splitSuffix_append hsuffix]
      exact .inl (by simp)
    · refine .inr ?_
      rw [show "+json".toList = '+' :: "json".toList from rfl, splitSuffix_append (by decide),
        if_pos hne]

/-! ### Media types -/

theorem span_isTokenChar {a b : List Char} (ha : TokenText a)
    (hb : ∀ c ∈ b.head?, isTokenChar c = false) : (a ++ b).span isTokenChar = (a, b) := by
  have hall : ∀ c ∈ a, isTokenChar c = true := fun c hc => isTokenChar_iff.2 (ha c hc)
  rw [List.span_eq_takeWhile_dropWhile, List.takeWhile_append_of_pos hall,
    List.dropWhile_append_of_pos hall]
  cases b with
  | nil => simp
  | cons c b =>
    have hc := hb c rfl
    rw [List.takeWhile_cons_of_neg (by simp [hc]), List.dropWhile_cons_of_neg (by simp [hc]),
      List.append_nil]

theorem exists_span (s : List Char) : ∃ a b, s = a ++ b ∧ TokenText a ∧
    s.span isTokenChar = (a, b) := by
  refine ⟨s.takeWhile isTokenChar, s.dropWhile isTokenChar,
    List.takeWhile_append_dropWhile.symm, fun c hc => ?_, List.span_eq_takeWhile_dropWhile _ _⟩
  exact isTokenChar_iff.1 (List.mem_takeWhile_imp hc)

/-- What may stand behind the subtype. -/
theorem parametersFollow_iff {rest : List Char} :
    (match rest with
      | [] => true
      | ';' :: parameters => areParameters parameters
      | _ => false) = true ↔
    rest = [] ∨ ∃ parameters, rest = ';' :: parameters ∧ Parameters parameters := by
  split
  · simp
  · simp [areParameters_iff]
  · rename_i hnil hsemicolon
    simp only [Bool.false_eq_true, false_iff, not_or, not_exists, not_and]
    exact ⟨hnil, fun parameters h => absurd h (hsemicolon parameters)⟩

/-- **The media type of JSON is accepted as the grammar has it.** -/
theorem isJsonType_iff {s : String} : isJsonType s = true ↔ JsonType s := by
  have happlication : TokenText "application".toList := fun c hc =>
    isTokenChar_iff.1
      (List.all_eq_true.1 (by decide : "application".toList.all isTokenChar = true) c hc)
  constructor
  · intro h
    obtain ⟨type, rest, hlower, -, hspan⟩ := exists_span (s.toList.map Char.toLower)
    simp only [isJsonType, hspan] at h
    split at h
    case h_2 => cases h
    case h_1 rest =>
      obtain ⟨subtype, rest, rfl, hsubtype, hspan⟩ := exists_span rest
      simp only [hspan, Bool.and_eq_true, Bool.or_eq_true, decide_eq_true_iff,
        splitSuffix_eq_json_iff] at h
      obtain ⟨⟨rfl, hjson⟩, hrest⟩ := h
      rcases parametersFollow_iff.1 hrest with rfl | ⟨parameters, rfl, hparameters⟩
      · exact .bare (by simpa using hlower) hsubtype hjson
      · exact .parametrized (by simpa using hlower) hsubtype hjson hparameters
  · have hread : ∀ {subtype rest : List Char}, s.toList.map Char.toLower =
        "application".toList ++ '/' :: (subtype ++ rest) → TokenText subtype →
        JsonSubtype subtype → (rest = [] ∨ ∃ parameters, rest = ';' :: parameters ∧
          Parameters parameters) → isJsonType s = true := by
      intro subtype rest hlower hsubtype hjson hrest
      have hslash : ∀ c ∈ ('/' :: (subtype ++ rest)).head?, isTokenChar c = false := by
        rintro _ ⟨⟩
        decide
      have hbehind : ∀ c ∈ rest.head?, isTokenChar c = false := by
        rcases hrest with rfl | ⟨parameters, rfl, -⟩
        · rintro _ ⟨⟩
        · rintro _ ⟨⟩
          decide
      simp only [isJsonType, hlower, span_isTokenChar happlication hslash,
        span_isTokenChar hsubtype hbehind, Bool.and_eq_true, Bool.or_eq_true, decide_eq_true_iff,
        splitSuffix_eq_json_iff]
      exact ⟨⟨trivial, hjson⟩, parametersFollow_iff.2 hrest⟩
    rintro (⟨hlower, hsubtype, hjson⟩ | ⟨hlower, hsubtype, hjson, hparameters⟩)
    · exact hread (by simpa using hlower) hsubtype hjson (.inl rfl)
    · exact hread (by simpa using hlower) hsubtype hjson (.inr ⟨_, rfl, hparameters⟩)

end VisitBooking.Http
