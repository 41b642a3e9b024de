import Mathlib.Data.List.TakeWhile
import VisitBooking.Proofs.Http.Routing
import VisitBooking.Http.Request

/-!
# What a target is made of

A target is a path, a query after a question mark and a fragment after a number sign, the last two
of which may be missing. A scheme and an authority may stand in front. So a target is told by its
parts, and it can be told in one way only, since none of the parts has in it what ends it.

A target without a path, such as a star or an authority alone, is told in no way. It names no
resource.

## Main definitions

* `Text.opened`: what stands after a mark, with the mark, or nothing.
* `Front`: a scheme and an authority, or nothing.
* `Request.HasTarget`: the path and the query of a target.

## Main results

* `Text.cutAt_eq_iff`: a text cut at a mark.
* `Request.hasTarget_iff`: the path and the query are found.
-/

namespace VisitBooking

namespace Text

variable {c : Char}

/-- What stands after a mark, with the mark, or nothing. -/
def opened (c : Char) (after : Option (List Char)) : List Char := after.elim [] (c :: ·)

theorem cutAt_append {before : List Char} (h : c ∉ before) (after : Option (List Char)) :
    cutAt c (before ++ opened c after) = (before, after) := by
  induction before with
  | nil =>
    cases after with
    | none => rfl
    | some s => exact if_pos rfl
  | cons b before ih =>
    obtain ⟨hb, hbefore⟩ := not_or.1 (mt List.mem_cons.2 h)
    rw [List.cons_append, cutAt, if_neg (Ne.symm hb), ih hbefore]

/-- Any text is put together from what stands before a mark and after it. -/
theorem exists_eq_append_opened (c : Char) (s : List Char) :
    ∃ before after, s = before ++ opened c after ∧ c ∉ before := by
  induction s with
  | nil => exact ⟨[], none, rfl, List.not_mem_nil⟩
  | cons x s ih =>
    by_cases hx : x = c
    · exact ⟨[], some s, by rw [hx]; rfl, List.not_mem_nil⟩
    · obtain ⟨before, after, rfl, hbefore⟩ := ih
      exact ⟨x :: before, after, rfl, mt List.mem_cons.1 (not_or.2 ⟨Ne.symm hx, hbefore⟩)⟩

/-- A text is cut into what it is put together from. -/
theorem cutAt_eq_iff {s before : List Char} {after : Option (List Char)} :
    cutAt c s = (before, after) ↔ s = before ++ opened c after ∧ c ∉ before := by
  constructor
  · obtain ⟨b, a, rfl, hb⟩ := exists_eq_append_opened c s
    rw [cutAt_append hb]
    rintro ⟨⟩
    exact ⟨rfl, hb⟩
  · rintro ⟨rfl, h⟩
    exact cutAt_append h after

end Text

namespace Http

open Text

/-- What may stand before the path of a target. -/
inductive Front : List Char → Prop
  | nil : Front []
  | authority (scheme authority : List Char) (hscheme : ':' ∉ scheme)
      (hhead : scheme.head? ≠ some '/')
      (hauthority : ∀ c ∈ authority, c ≠ '/' ∧ c ≠ '?') (hfragment : '#' ∉ scheme ++ authority) :
      Front (scheme ++ ':' :: '/' :: '/' :: authority)

theorem Front.not_mem {front : List Char} (h : Front front) : '#' ∉ front := by
  cases h with
  | nil => exact List.not_mem_nil
  | authority scheme authority hscheme hhead hauthority hfragment =>
    rw [List.mem_append, not_or] at hfragment
    simp [hfragment.1, hfragment.2]

namespace Request

/-- The target of the request has the path and the query, which is empty where it is missing. -/
inductive HasTarget (r : Request) : List Char → List Char → Prop
  | intro (front path : List Char) (query fragment : Option (List Char)) (hfront : Front front)
      (htarget : r.target.toList = front ++ (path ++ opened '?' query) ++ opened '#' fragment)
      (hpath : path.head? = some '/') (hquestion : '?' ∉ path)
      (hnumber : '#' ∉ path ++ opened '?' query) : HasTarget r path (query.getD [])

variable {r : Request} {path query : List Char}

theorem dropWhile_append_cons {p : Char → Bool} {before : List Char} {c : Char} {s : List Char}
    (h : ∀ x ∈ before, p x = true) (hc : p c = false) :
    (before ++ c :: s).dropWhile p = c :: s := by
  rw [List.dropWhile_append_of_pos h, List.dropWhile_cons_of_neg (by simp [hc])]

theorem address_of_slash {s : List Char} {fragment : Option (List Char)}
    (hcut : cutAt '#' r.target.toList = ('/' :: s, fragment)) : r.address = '/' :: s := by
  simp only [address, hcut]

theorem address_of_not_slash {target : List Char} {fragment : Option (List Char)}
    (hcut : cutAt '#' r.target.toList = (target, fragment)) (hhead : target.head? ≠ some '/') :
    r.address = afterAuthority target := by
  simp only [address, hcut]
  split
  · exact absurd rfl hhead
  · rfl

/-- What stands from the path on is found behind anything that may stand before it. -/
theorem address_eq {front rest : List Char} {fragment : Option (List Char)} (hfront : Front front)
    (htarget : r.target.toList = front ++ rest ++ opened '#' fragment)
    (hrest : rest.head? = some '/') (hnumber : '#' ∉ rest) : r.address = rest := by
  have hcut : cutAt '#' r.target.toList = (front ++ rest, fragment) :=
    cutAt_eq_iff.2 ⟨htarget, by simp [hfront.not_mem, hnumber]⟩
  obtain ⟨s, rfl⟩ := List.head?_eq_some_iff.1 hrest
  cases hfront with
  | nil => exact address_of_slash hcut
  | authority scheme authority hscheme hhead hauthority _ =>
    have hne : (scheme ++ ':' :: '/' :: '/' :: authority ++ '/' :: s).head? ≠ some '/' := by
      cases scheme with
      | nil => simp
      | cons c scheme => exact hhead
    rw [address_of_not_slash hcut hne, afterAuthority, List.append_assoc, List.cons_append,
      dropWhile_append_cons (fun x hx => by simpa using ne_of_mem_of_not_mem hx hscheme) (by simp)]
    exact dropWhile_append_cons (fun x hx => by simpa using hauthority x hx) (by simp)

/-- What follows the scheme and the authority stands behind them. -/
theorem exists_authority {target : List Char} (h : afterAuthority target ≠ []) :
    ∃ scheme authority, target = scheme ++ ':' :: '/' :: '/' :: authority ++ afterAuthority target ∧
      ':' ∉ scheme ∧ (∀ c ∈ authority, c ≠ '/' ∧ c ≠ '?') ∧
      ((afterAuthority target).head? = some '/' ∨ (afterAuthority target).head? = some '?') := by
  rw [afterAuthority] at h ⊢
  split at h
  case h_2 => exact absurd rfl h
  case h_1 s hdrop =>
    have hscheme : ∀ c ∈ target.takeWhile (· ≠ ':'), c ≠ ':' := fun c hc => by
      simpa using List.mem_takeWhile_imp hc
    have hauthority : ∀ c ∈ s.takeWhile (fun c => c ≠ '/' ∧ c ≠ '?'), c ≠ '/' ∧ c ≠ '?' :=
      fun c hc => by simpa using List.mem_takeWhile_imp hc
    refine ⟨target.takeWhile (· ≠ ':'), s.takeWhile fun c => c ≠ '/' ∧ c ≠ '?', ?_,
      fun hc => hscheme _ hc rfl, hauthority, ?_⟩
    · show target = _ ++ s.dropWhile _
      rw [List.append_assoc, List.cons_append, List.cons_append, List.cons_append,
        List.takeWhile_append_dropWhile, ← hdrop, List.takeWhile_append_dropWhile]
    · obtain ⟨c, t, hc⟩ := List.exists_cons_of_ne_nil h
      have hfind : s.find? (fun c => !decide (c ≠ '/' ∧ c ≠ '?')) = some c := by
        rw [List.find?_not_eq_head?_dropWhile, hc, List.head?_cons]
      rw [hc, List.head?_cons]
      simpa [or_iff_not_imp_left] using List.find?_some hfind

/-- Where something stands from the path on, it stands behind what may stand before it. -/
theorem exists_front (h : r.address ≠ []) : ∃ front fragment, Front front ∧
    r.target.toList = front ++ r.address ++ opened '#' fragment ∧ '#' ∉ r.address ∧
    (r.address.head? = some '/' ∨ r.address.head? = some '?') := by
  rcases hcut : cutAt '#' r.target.toList with ⟨target, fragment⟩
  obtain ⟨htarget, hnumber⟩ := cutAt_eq_iff.1 hcut
  by_cases hhead : target.head? = some '/'
  · obtain ⟨s, rfl⟩ := List.head?_eq_some_iff.1 hhead
    rw [address_of_slash hcut]
    exact ⟨[], fragment, .nil, htarget, hnumber, .inl rfl⟩
  · rw [address_of_not_slash hcut hhead] at h ⊢
    obtain ⟨scheme, authority, heq, hscheme, hauthority, hafter⟩ := exists_authority h
    rw [heq] at htarget hnumber hhead
    simp only [List.mem_append, List.mem_cons, not_or] at hnumber
    refine ⟨_, fragment, .authority scheme authority hscheme ?_ hauthority ?_, htarget, hnumber.2,
      hafter⟩
    · intro hslash
      obtain ⟨s, rfl⟩ := List.head?_eq_some_iff.1 hslash
      exact hhead rfl
    · rw [List.mem_append, not_or]
      exact ⟨hnumber.1.1, hnumber.1.2.2.2.2⟩

/-- **The path and the query are found.** -/
theorem hasTarget_iff : r.HasTarget path query ↔ r.path = path ∧ r.query = query ∧ path ≠ [] := by
  constructor
  · rintro ⟨front, path, query, fragment, hfront, htarget, hpath, hquestion, hnumber⟩
    have hne : path ≠ [] := fun h => by
      rw [h] at hpath
      cases hpath
    have haddress : r.address = path ++ opened '?' query :=
      address_eq hfront htarget (by rw [List.head?_append, hpath]; rfl) hnumber
    have hcut : cutAt '?' r.address = (path, query) := cutAt_eq_iff.2 ⟨haddress, hquestion⟩
    rw [Request.path, Request.query, hcut]
    exact ⟨rfl, rfl, hne⟩
  · rintro ⟨rfl, rfl, hne⟩
    rcases hcut : cutAt '?' r.address with ⟨path, query⟩
    obtain ⟨haddress, hquestion⟩ := cutAt_eq_iff.1 hcut
    simp only [Request.path, Request.query, hcut] at hne ⊢
    have hnil : r.address ≠ [] := fun h => hne (List.append_eq_nil_iff.1 (haddress.symm.trans h)).1
    obtain ⟨front, fragment, hfront, htarget, hnumber, hhead⟩ := exists_front hnil
    rw [haddress] at htarget hnumber hhead
    obtain ⟨c, s, rfl⟩ := List.exists_cons_of_ne_nil hne
    have hpath : c = '/' := by
      rcases hhead with h | h <;> cases h
      · rfl
      · exact absurd List.mem_cons_self hquestion
    exact .intro front _ query fragment hfront htarget (by rw [hpath]; rfl) hquestion hnumber

end Request

end Http

end VisitBooking
