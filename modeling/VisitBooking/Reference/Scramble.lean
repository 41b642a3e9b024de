/-!
# Scrambling digits

Neighbouring identities differ in one digit; their references should not look alike. The scramble
runs from the least significant digit upwards with an accumulator: each digit is shifted by the
accumulator modulo the base, and the accumulator moves on with the symbol just produced and with
its position. It starts from the number of digits, so it depends on nothing but the symbols
already produced, and `unscramble` can rebuild it step by step.

This hides the order of references and is no secret: whoever knows the alphabet can undo it.

## Main definitions

* `nextShift`: how the accumulator moves on.
* `scramble`, `unscramble`: the two directions, on digits below `base`.

## Main results

* `unscrambleFrom_scrambleFrom`, `scrambleFrom_unscrambleFrom`: each undoes the other, on digits
  below the base.
-/

namespace VisitBooking.Reference

/-- The accumulator after `symbol` was produced at `position`. -/
def nextShift (base shift symbol position : Nat) : Nat :=
  (shift * 7 + symbol * 3 + position + 1) % base

/-- Scramble from `position` on, with the accumulator at `shift`. -/
def scrambleFrom (base shift position : Nat) : List Nat → List Nat
  | [] => []
  | d :: ds =>
    let symbol := (d + shift) % base
    symbol :: scrambleFrom base (nextShift base shift symbol position) (position + 1) ds

/-- Undo `scrambleFrom`, with the accumulator at `shift`. -/
def unscrambleFrom (base shift position : Nat) : List Nat → List Nat
  | [] => []
  | symbol :: symbols =>
    (symbol + base - shift) % base ::
      unscrambleFrom base (nextShift base shift symbol position) (position + 1) symbols

/-- Scramble digits, least significant first. -/
def scramble (base : Nat) (ds : List Nat) : List Nat :=
  scrambleFrom base (ds.length % base) 0 ds

/-- The digits whose scramble is the given list. -/
def unscramble (base : Nat) (symbols : List Nat) : List Nat :=
  unscrambleFrom base (symbols.length % base) 0 symbols

/-! ### The two directions undo each other

A shift below the base is taken back by the opposite shift, and both directions move the accumulator
on with the same symbol. -/

@[simp] theorem length_scrambleFrom (base shift position : Nat) (ds : List Nat) :
    (scrambleFrom base shift position ds).length = ds.length := by
  induction ds generalizing shift position with
  | nil => rfl
  | cons d ds ih => simp [scrambleFrom, ih]

@[simp] theorem length_unscrambleFrom (base shift position : Nat) (ss : List Nat) :
    (unscrambleFrom base shift position ss).length = ss.length := by
  induction ss generalizing shift position with
  | nil => rfl
  | cons s ss ih => simp [unscrambleFrom, ih]

theorem nextShift_lt {base : Nat} (hb : 0 < base) (shift symbol position : Nat) :
    nextShift base shift symbol position < base := Nat.mod_lt _ hb

/-- A shift taken back. -/
theorem shift_back {base shift d : Nat} (hs : shift < base) (hd : d < base) :
    ((d + shift) % base + base - shift) % base = d := by
  by_cases h : d + shift < base
  · rw [Nat.mod_eq_of_lt h, show d + shift + base - shift = d + base by omega,
      Nat.add_mod_right, Nat.mod_eq_of_lt hd]
  · have hm : (d + shift) % base = d + shift - base := by
      rw [Nat.mod_eq_sub_mod (by omega), Nat.mod_eq_of_lt (by omega)]
    rw [hm, show d + shift - base + base - shift = d by omega, Nat.mod_eq_of_lt hd]

/-- A shift taken back and made again. -/
theorem shift_forth {base shift s : Nat} (hs : shift < base) (h : s < base) :
    ((s + base - shift) % base + shift) % base = s := by
  rw [Nat.mod_add_mod, show s + base - shift + shift = s + base by omega, Nat.add_mod_right,
    Nat.mod_eq_of_lt h]

theorem unscrambleFrom_scrambleFrom {base shift : Nat} (position : Nat) {ds : List Nat}
    (hs : shift < base) (hds : ∀ d ∈ ds, d < base) :
    unscrambleFrom base shift position (scrambleFrom base shift position ds) = ds := by
  induction ds generalizing shift position with
  | nil => rfl
  | cons d ds ih =>
    have hd : d < base := hds d (List.mem_cons_self ..)
    have hrest := ih (position + 1)
      (nextShift_lt (by omega) shift ((d + shift) % base) position)
      (fun e he => hds e (List.mem_cons_of_mem _ he))
    simp only [scrambleFrom, unscrambleFrom]
    rw [hrest, shift_back hs hd]

theorem scrambleFrom_unscrambleFrom {base shift : Nat} (position : Nat) {ss : List Nat}
    (hs : shift < base) (hss : ∀ s ∈ ss, s < base) :
    scrambleFrom base shift position (unscrambleFrom base shift position ss) = ss := by
  induction ss generalizing shift position with
  | nil => rfl
  | cons s ss ih =>
    have h : s < base := hss s (List.mem_cons_self ..)
    simp only [scrambleFrom, unscrambleFrom]
    rw [shift_forth hs h, ih (position + 1) (nextShift_lt (by omega) ..)
      (fun e he => hss e (List.mem_cons_of_mem _ he))]

@[simp] theorem length_scramble (base : Nat) (ds : List Nat) :
    (scramble base ds).length = ds.length := length_scrambleFrom ..

@[simp] theorem length_unscramble (base : Nat) (symbols : List Nat) :
    (unscramble base symbols).length = symbols.length := length_unscrambleFrom ..

end VisitBooking.Reference
