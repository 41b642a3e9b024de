import VisitBooking.Zone.Transition
import VisitBooking.Zone.Table
import VisitBooking.Zone.Data.Africa
import VisitBooking.Zone.Data.Aliases
import VisitBooking.Zone.Data.America
import VisitBooking.Zone.Data.Asia
import VisitBooking.Zone.Data.Europe
import VisitBooking.Zone.Data.Oceans
import VisitBooking.Zone.Data.Offsets
import VisitBooking.Zone.Data.RulesFromI
import VisitBooking.Zone.Data.RulesToH

/-!
# Zones by name

The zones that can be configured, by the names of the public time zone database. A zone reached by
another name has the offsets of the zone that the name stands for and keeps the name it was asked
by. Names are compared as they are written.
-/

namespace VisitBooking.Zone

open Data

/-- The rule set with the given name. -/
def rulesNamed? (name : String) : Option (List Rule) := do
  let text ← (rulesToH.lookup name).or (rulesFromI.lookup name)
  rulesOfText? text

/-- The text of the eras of a zone. -/
def erasText? (name : String) : Option String :=
  (((((europe.lookup name).or (africa.lookup name)).or (america.lookup name)).or
    (asia.lookup name)).or (oceans.lookup name)).or (offsets.lookup name)

/-- The zone with the given name. -/
def named? (name : String) : Option Zone := do
  let text ← erasText? ((aliases.lookup name).getD name)
  let eras ← erasOfText? rulesNamed? text
  return ofEras name eras

end VisitBooking.Zone
