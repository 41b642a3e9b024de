/-!
# Zones of fixed offset

Each entry has the name of a zone and its eras, one a line and in order: the standard offset in
seconds, then the saving in seconds or the name of a rule set, and, but for the last era, the year,
month, day and time of its end.
-/

namespace VisitBooking.Zone.Data

/-- The eras of these zones. -/
def offsets : List (String × String) := [
  ("Etc/GMT", "
    0 0"),
  ("Etc/GMT+1", "
    -3600 0"),
  ("Etc/GMT+10", "
    -36000 0"),
  ("Etc/GMT+11", "
    -39600 0"),
  ("Etc/GMT+12", "
    -43200 0"),
  ("Etc/GMT+2", "
    -7200 0"),
  ("Etc/GMT+3", "
    -10800 0"),
  ("Etc/GMT+4", "
    -14400 0"),
  ("Etc/GMT+5", "
    -18000 0"),
  ("Etc/GMT+6", "
    -21600 0"),
  ("Etc/GMT+7", "
    -25200 0"),
  ("Etc/GMT+8", "
    -28800 0"),
  ("Etc/GMT+9", "
    -32400 0"),
  ("Etc/GMT-1", "
    3600 0"),
  ("Etc/GMT-10", "
    36000 0"),
  ("Etc/GMT-11", "
    39600 0"),
  ("Etc/GMT-12", "
    43200 0"),
  ("Etc/GMT-13", "
    46800 0"),
  ("Etc/GMT-14", "
    50400 0"),
  ("Etc/GMT-2", "
    7200 0"),
  ("Etc/GMT-3", "
    10800 0"),
  ("Etc/GMT-4", "
    14400 0"),
  ("Etc/GMT-5", "
    18000 0"),
  ("Etc/GMT-6", "
    21600 0"),
  ("Etc/GMT-7", "
    25200 0"),
  ("Etc/GMT-8", "
    28800 0"),
  ("Etc/GMT-9", "
    32400 0"),
  ("Etc/UTC", "
    0 0")]

end VisitBooking.Zone.Data
