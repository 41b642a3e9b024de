/-!
# Eras of the zones of the oceans, Australia and Antarctica

Each entry has the name of a zone and its eras, one a line and in order: the standard offset in
seconds, then the saving in seconds or the name of a rule set, and, but for the last era, the year,
month, day and time of its end.
-/

namespace VisitBooking.Zone.Data

/-- The eras of these zones. -/
def oceans : List (String × String) := [
  ("Antarctica/Casey", "
    0 0 1969 1 1 0w
    28800 0 2009 10 18 7200w
    39600 0 2010 3 5 7200w
    28800 0 2011 10 28 7200w
    39600 0 2012 2 21 61200u
    28800 0 2016 10 22 0w
    39600 0 2018 3 11 14400w
    28800 0 2018 10 7 14400w
    39600 0 2019 3 17 10800w
    28800 0 2019 10 4 10800w
    39600 0 2020 3 8 10800w
    28800 0 2020 10 4 60w
    39600 0 2021 3 14 0w
    28800 0 2021 10 3 60w
    39600 0 2022 3 13 0w
    28800 0 2022 10 2 60w
    39600 0 2023 3 9 10800w
    28800 0"),
  ("Antarctica/Davis", "
    0 0 1957 1 13 0w
    25200 0 1964 11 1 0w
    0 0 1969 2 1 0w
    25200 0 2009 10 18 7200w
    18000 0 2010 3 10 72000u
    25200 0 2011 10 28 7200w
    18000 0 2012 2 21 72000u
    25200 0"),
  ("Antarctica/Macquarie", "
    0 0 1899 11 1 0w
    36000 0 1916 10 1 7200w
    36000 3600 1917 2 1 0w
    36000 AU 1919 4 1 0s
    0 0 1948 3 25 0w
    36000 AU 1967 1 1 0w
    36000 AT 2010 1 1 0w
    36000 3600 2011 1 1 0w
    36000 AT"),
  ("Antarctica/Mawson", "
    0 0 1954 2 13 0w
    21600 0 2009 10 18 7200w
    18000 0"),
  ("Antarctica/Palmer", "
    0 0 1965 1 1 0w
    -14400 A 1969 10 5 0w
    -10800 A 1982 5 1 0w
    -14400 x 2016 12 4 0w
    -10800 0"),
  ("Antarctica/Rothera", "
    0 0 1976 12 1 0w
    -10800 0"),
  ("Antarctica/Troll", "
    0 0 2005 2 12 0w
    0 Tr"),
  ("Antarctica/Vostok", "
    0 0 1957 12 16 0w
    25200 0 1994 2 1 0w
    0 0 1994 11 1 0w
    25200 0 2023 12 18 7200w
    18000 0"),
  ("Atlantic/Azores", "
    -6160 0 1884 1 1 0w
    -6872 0 1912 1 1 7200u
    -7200 p 1942 4 25 79200s
    -7200 p 1942 8 15 79200s
    -7200 p 1943 4 17 79200s
    -7200 p 1943 8 28 79200s
    -7200 p 1944 4 22 79200s
    -7200 p 1944 8 26 79200s
    -7200 p 1945 4 21 79200s
    -7200 p 1945 8 25 79200s
    -7200 p 1966 10 2 7200s
    -3600 0 1982 3 28 0s
    -3600 p 1986 1 1 0w
    -3600 E 1992 12 27 3600s
    0 E 1993 6 17 3600u
    -3600 E"),
  ("Atlantic/Bermuda", "
    -15558 0 1890 1 1 0w
    -15558 Be 1930 1 1 7200w
    -14400 Be 1974 4 28 7200w
    -14400 C 1976 1 1 0w
    -14400 u"),
  ("Atlantic/Canary", "
    -3696 0 1922 3 1 0w
    -3600 0 1946 9 30 3600w
    0 0 1980 4 6 0s
    0 3600 1980 9 28 3600u
    0 E"),
  ("Atlantic/Cape_Verde", "
    -5644 0 1912 1 1 7200u
    -7200 0 1942 9 1 0w
    -7200 3600 1945 10 15 0w
    -7200 0 1975 11 25 7200w
    -3600 0"),
  ("Atlantic/Faroe", "
    -1624 0 1908 1 11 0w
    0 0 1981 1 1 0w
    0 E"),
  ("Atlantic/Madeira", "
    -4056 0 1884 1 1 0w
    -4056 0 1912 1 1 3600u
    -3600 p 1942 4 25 79200s
    -3600 p 1942 8 15 79200s
    -3600 p 1943 4 17 79200s
    -3600 p 1943 8 28 79200s
    -3600 p 1944 4 22 79200s
    -3600 p 1944 8 26 79200s
    -3600 p 1945 4 21 79200s
    -3600 p 1945 8 25 79200s
    -3600 p 1966 10 2 7200s
    0 0 1982 4 4 0w
    0 p 1986 7 31 0w
    0 E"),
  ("Atlantic/South_Georgia", "
    -8768 0 1890 1 1 0w
    -7200 0"),
  ("Atlantic/Stanley", "
    -13884 0 1890 1 1 0w
    -13884 0 1912 3 12 0w
    -14400 FK 1983 5 1 0w
    -10800 FK 1985 9 15 0w
    -14400 FK 2010 9 5 7200w
    -10800 0"),
  ("Australia/Adelaide", "
    33260 0 1895 2 1 0w
    32400 0 1899 5 1 0w
    34200 AU 1971 1 1 0w
    34200 AS"),
  ("Australia/Brisbane", "
    36728 0 1895 1 1 0w
    36000 AU 1971 1 1 0w
    36000 AQ"),
  ("Australia/Broken_Hill", "
    33948 0 1895 2 1 0w
    36000 0 1896 8 23 0w
    32400 0 1899 5 1 0w
    34200 AU 1971 1 1 0w
    34200 AN 2000 1 1 0w
    34200 AS"),
  ("Australia/Darwin", "
    31400 0 1895 2 1 0w
    32400 0 1899 5 1 0w
    34200 AU"),
  ("Australia/Eucla", "
    30928 0 1895 12 1 0w
    31500 AU 1943 7 1 0w
    31500 AW"),
  ("Australia/Hobart", "
    35356 0 1895 9 1 0w
    36000 AT 1919 10 24 0w
    36000 AU 1967 1 1 0w
    36000 AT"),
  ("Australia/Lindeman", "
    35756 0 1895 1 1 0w
    36000 AU 1971 1 1 0w
    36000 AQ 1992 7 1 0w
    36000 Ho"),
  ("Australia/Lord_Howe", "
    38180 0 1895 2 1 0w
    36000 0 1981 3 1 0w
    37800 LH 1985 7 1 0w
    37800 LH"),
  ("Australia/Melbourne", "
    34792 0 1895 2 1 0w
    36000 AU 1971 1 1 0w
    36000 AV"),
  ("Australia/Perth", "
    27804 0 1895 12 1 0w
    28800 AU 1943 7 1 0w
    28800 AW"),
  ("Australia/Sydney", "
    36292 0 1895 2 1 0w
    36000 AU 1971 1 1 0w
    36000 AN"),
  ("Indian/Chagos", "
    17380 0 1907 1 1 0w
    18000 0 1996 1 1 0w
    21600 0"),
  ("Indian/Maldives", "
    17640 0 1880 1 1 0w
    17640 0 1960 1 1 0w
    18000 0"),
  ("Indian/Mauritius", "
    13800 0 1907 1 1 0w
    14400 MU"),
  ("Pacific/Apia", "
    45184 0 1892 7 5 0w
    -41216 0 1911 1 1 0w
    -41400 0 1950 1 1 0w
    -39600 WS 2011 12 29 86400w
    46800 WS"),
  ("Pacific/Auckland", "
    41944 0 1868 11 2 0w
    41400 NZ 1946 1 1 0w
    43200 NZ"),
  ("Pacific/Bougainville", "
    37336 0 1880 1 1 0w
    35312 0 1895 1 1 0w
    36000 0 1942 7 1 0w
    32400 0 1945 8 21 0w
    36000 0 2014 12 28 7200w
    39600 0"),
  ("Pacific/Chatham", "
    44028 0 1868 11 2 0w
    44100 0 1946 1 1 0w
    45900 k"),
  ("Pacific/Easter", "
    -26248 0 1890 1 1 0w
    -26248 0 1932 9 1 0w
    -25200 x 1982 3 14 10800u
    -21600 x"),
  ("Pacific/Efate", "
    40396 0 1912 1 13 0w
    39600 VU"),
  ("Pacific/Fakaofo", "
    -41096 0 1901 1 1 0w
    -39600 0 2011 12 30 0w
    46800 0"),
  ("Pacific/Fiji", "
    42944 0 1915 10 26 0w
    43200 FJ"),
  ("Pacific/Galapagos", "
    -21504 0 1931 1 1 0w
    -18000 0 1986 1 1 0w
    -21600 EC"),
  ("Pacific/Gambier", "
    -32388 0 1912 10 1 0w
    -32400 0"),
  ("Pacific/Guadalcanal", "
    38388 0 1912 10 1 0w
    39600 0"),
  ("Pacific/Guam", "
    -51660 0 1844 12 31 0w
    34740 0 1901 1 1 0w
    36000 0 1941 12 10 0w
    32400 0 1944 7 31 0w
    36000 Gu 2000 12 23 0w
    36000 0"),
  ("Pacific/Honolulu", "
    -37886 0 1896 1 13 43200w
    -37800 0 1933 4 30 7200w
    -37800 3600 1933 5 21 43200w
    -37800 u 1947 6 8 7200w
    -36000 0"),
  ("Pacific/Kanton", "
    0 0 1937 8 31 0w
    -43200 0 1979 10 1 0w
    -39600 0 1994 12 31 0w
    46800 0"),
  ("Pacific/Kiritimati", "
    -37760 0 1901 1 1 0w
    -38400 0 1979 10 1 0w
    -36000 0 1994 12 31 0w
    50400 0"),
  ("Pacific/Kosrae", "
    -47284 0 1844 12 31 0w
    39116 0 1901 1 1 0w
    39600 0 1914 10 1 0w
    32400 0 1919 2 1 0w
    39600 0 1937 1 1 0w
    36000 0 1941 4 1 0w
    32400 0 1945 8 1 0w
    39600 0 1969 10 1 0w
    43200 0 1999 1 1 0w
    39600 0"),
  ("Pacific/Kwajalein", "
    40160 0 1901 1 1 0w
    39600 0 1937 1 1 0w
    36000 0 1941 4 1 0w
    32400 0 1944 2 6 0w
    39600 0 1969 10 1 0w
    -43200 0 1993 8 20 86400w
    43200 0"),
  ("Pacific/Marquesas", "
    -33480 0 1912 10 1 0w
    -34200 0"),
  ("Pacific/Nauru", "
    40060 0 1921 1 15 0w
    41400 0 1942 8 29 0w
    32400 0 1945 9 8 0w
    41400 0 1979 2 10 7200w
    43200 0"),
  ("Pacific/Niue", "
    -40780 0 1952 10 16 0w
    -40800 0 1964 7 1 0w
    -39600 0"),
  ("Pacific/Norfolk", "
    40312 0 1901 1 1 0w
    40320 0 1951 1 1 0w
    41400 0 1974 10 27 7200s
    41400 3600 1975 3 2 7200s
    41400 0 2015 10 4 7200s
    39600 0 2019 7 1 0w
    39600 AN"),
  ("Pacific/Noumea", "
    39948 0 1912 1 13 0w
    39600 NC"),
  ("Pacific/Pago_Pago", "
    45432 0 1892 7 5 0w
    -40968 0 1911 1 1 0w
    -39600 0"),
  ("Pacific/Palau", "
    -54124 0 1844 12 31 0w
    32276 0 1901 1 1 0w
    32400 0"),
  ("Pacific/Pitcairn", "
    -31220 0 1901 1 1 0w
    -30600 0 1998 4 27 0w
    -28800 0"),
  ("Pacific/Port_Moresby", "
    35320 0 1880 1 1 0w
    35312 0 1895 1 1 0w
    36000 0"),
  ("Pacific/Rarotonga", "
    48056 0 1899 12 26 0w
    -38344 0 1952 10 16 0w
    -37800 0 1978 11 12 0w
    -36000 CK"),
  ("Pacific/Tahiti", "
    -35896 0 1912 10 1 0w
    -36000 0"),
  ("Pacific/Tarawa", "
    41524 0 1901 1 1 0w
    43200 0"),
  ("Pacific/Tongatapu", "
    44352 0 1945 9 10 0w
    44400 0 1961 1 1 0w
    46800 0 1999 1 1 0w
    46800 TO")]

end VisitBooking.Zone.Data
