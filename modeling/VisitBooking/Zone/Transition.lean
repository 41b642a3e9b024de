import VisitBooking.Zone.Rule
import VisitBooking.Calendar.Written

/-!
# Offsets of a time zone

A zone has an initial offset and a list of transitions in ascending order, each with the offset
that holds from then on. `Zone.ofEras` works them out from the eras of the zone by going through
the years in order and, in each year, through the changes in order of time, the offset of one
change deciding when the next one falls. Rules are followed from 1800 to the end of 2099; after
that the last offset stays.

## Main definitions

* `Zone`: offsets by time.
* `Zone.offsetAt`, `Zone.localTime`: the offset at an instant, and the clock on the wall.
* `Zone.ofEras`: the zone of a list of eras.
-/

namespace VisitBooking

open VisitBooking.Calendar

/-- The offset from universal time, in seconds and positive to the east, at all times. -/
structure Zone where
  /-- The name by which the zone was asked for. -/
  name : String
  /-- The offset before the first transition. -/
  initial : Int
  /-- Unix times, and the offsets that hold from them on. -/
  transitions : List (Int × Int)
deriving DecidableEq, Repr, Inhabited

namespace Zone

/-- The offset after those of the transitions that have happened by `seconds`. -/
def offsetFrom (seconds : Int) : Int → List (Int × Int) → Int
  | offset, [] => offset
  | offset, (time, later) :: rest =>
    if time ≤ seconds then offsetFrom seconds later rest else offset

/-- The offset of the zone at an instant. -/
def offsetAt (z : Zone) (t : Instant) : Int := offsetFrom t.seconds z.initial z.transitions

/-- What the clock on the wall shows at an instant. -/
def localTime (z : Zone) (t : Instant) : DateTime := t.utc.toDateTime.shift (z.offsetAt t)

/-- An instant as the wall clock shows it, followed by the offset. -/
def stamp (z : Zone) (t : Instant) : String := (z.localTime t).withOffset (z.offsetAt t)

/-! ### From eras to transitions -/

/-- A transition: its Unix time, the offset from then on, and how much of it is saving. -/
structure Transition where
  time : Int
  offset : Int
  saving : Int
deriving DecidableEq, Repr

/-- What is known while the years of an era are gone through. -/
structure Progress where
  /-- The seconds by which clocks are advanced now. -/
  saving : Int
  /-- No rule changed the clocks at the very beginning of the era. -/
  startOpen : Bool
  /-- The saving at the beginning of the era. -/
  startSaving : Int
  /-- The saving at the beginning of the era is settled. -/
  startKnown : Bool
  /-- The transitions found, the latest first. -/
  found : List Transition

/-- The rule that comes first among `rules` in the year, with its time, and the others. -/
def earliest (year standard saving : Int) : List Rule → Option (Int × Rule × List Rule)
  | [] => none
  | r :: rs =>
    let time := r.change.seconds year standard saving
    match earliest year standard saving rs with
    | none => some (time, r, [])
    | some (time', r', rest) =>
      if time ≤ time' then some (time, r, rs) else some (time', r', r :: rest)

/-- Take notice of a change at `time`: before the era it settles the saving at the beginning, in
the era it is a transition. -/
def Progress.change (standard : Int) (start : Option Int) (time saving : Int) (p : Progress) :
    Progress :=
  let startOpen := p.startOpen && start != some time
  let isBefore := startOpen && match start with
    | some s => decide (time < s)
    | none => false
  if isBefore then
    { p with saving := saving, startOpen := startOpen, startSaving := saving, startKnown := true }
  else
    { p with
      saving := saving
      startOpen := startOpen
      startKnown := p.startKnown || (startOpen && p.startSaving == saving)
      found := ⟨time, standard + saving, saving⟩ :: p.found }

/-- Go through the changes of one year, at most `fuel` of them, up to the end of the era. -/
def runYear (standard : Int) (start : Option Int) (ends : Option (Int × YearMoment)) (year : Int) :
    Nat → List Rule → Progress → Progress
  | 0, _, p => p
  | fuel + 1, rules, p =>
    match earliest year standard p.saving rules with
    | none => p
    | some (time, r, rest) =>
      let ended := match ends with
        | none => false
        | some (y, m) => decide (m.seconds y standard p.saving ≤ time)
      if ended then p
      else runYear standard start ends year fuel rest (p.change standard start time r.saving)

/-- The years in which rules are followed. -/
def ruledYears : List Int := (List.range 300).map fun (n : Nat) => Int.ofNat (1800 + n)

/-- The transitions of an era that begins at `start` (none for the first era of a zone), the latest
first, and the saving at its end. -/
def Era.transitions (start : Option Int) (e : Era) : List Transition × Int :=
  match e.advance with
  | .fixed saving => ((start.map fun t => ⟨t, e.standard + saving, saving⟩).toList, saving)
  | .ruled rules =>
    let years := match e.ends with
      | none => ruledYears
      | some (final, _) => ruledYears.filter fun y => decide (y ≤ final)
    let p := years.foldl (fun p year =>
        let active := rules.filter (Rule.coversYear year)
        runYear e.standard start e.ends year active.length active p)
      ⟨0, start.isSome, 0, false, []⟩
    let opening := match start with
      | some t =>
        if p.startOpen && p.startKnown then [⟨t, e.standard + p.startSaving, p.startSaving⟩] else []
      | none => []
    (opening ++ p.found, p.saving)

/-- The transitions of consecutive eras, in no particular order. -/
def transitionsFrom : Option Int → List Era → List Transition
  | _, [] => []
  | start, e :: es =>
    let (found, saving) := Era.transitions start e
    found ++ match e.ends with
      | none => []
      | some (year, m) => transitionsFrom (some (m.seconds year e.standard saving)) es

/-- Drop what no clock shows. A transition that comes so soon after the last kept one that the
wall clock never gets past it replaces that one's offset; a transition that changes nothing is
left out. `kept` holds the transitions kept so far, the latest first. -/
def tidy : List Transition → List Transition → List Transition
  | kept, [] => kept.reverse
  | b :: a :: kept, t :: ts =>
    if t.time + b.offset ≤ b.time + a.offset then
      tidy ({ t with time := b.time } :: a :: kept) ts
    else if b.offset = t.offset ∧ b.saving = t.saving then tidy (b :: a :: kept) ts
    else tidy (t :: b :: a :: kept) ts
  | [b], t :: ts =>
    if b.offset = t.offset ∧ b.saving = t.saving then tidy [b] ts else tidy [t, b] ts
  | [], t :: ts => tidy [t] ts

/-- The zone that keeps the given eras one after the other. -/
def ofEras (name : String) (eras : List Era) : Zone :=
  let all := (transitionsFrom none eras).mergeSort fun a b => decide (a.time ≤ b.time)
  let initial := match eras with
    | ⟨standard, .fixed saving, _⟩ :: _ => standard + saving
    | ⟨standard, .ruled _, _⟩ :: _ =>
      ((all.find? fun t => t.saving == 0).map Transition.offset).getD standard
    | [] => 0
  { name := name, initial := initial, transitions := (tidy [] all).map fun t => (t.time, t.offset) }

end Zone

end VisitBooking
