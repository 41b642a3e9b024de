/-!
# Eras of the zones of Asia

Each entry has the name of a zone and its eras, one a line and in order: the standard offset in
seconds, then the saving in seconds or the name of a rule set, and, but for the last era, the year,
month, day and time of its end.
-/

namespace VisitBooking.Zone.Data

/-- The eras of these zones, part 1 of 2. -/
def asia1 : List (String × String) := [
  ("Asia/Almaty", "
    18468 0 1924 5 2 0w
    18000 0 1930 6 21 0w
    21600 R 1991 3 31 7200s
    18000 R 1992 1 19 7200s
    21600 R 2004 10 31 7200s
    21600 0 2024 3 1 0w
    18000 0"),
  ("Asia/Amman", "
    8624 0 1931 1 1 0w
    7200 J 2022 10 28 0s
    10800 0"),
  ("Asia/Anadyr", "
    42596 0 1924 5 2 0w
    43200 0 1930 6 21 0w
    46800 R 1982 4 1 0s
    43200 R 1991 3 31 7200s
    39600 R 1992 1 19 7200s
    43200 R 2010 3 28 7200s
    39600 R 2011 3 27 7200s
    43200 0"),
  ("Asia/Aqtau", "
    12064 0 1924 5 2 0w
    14400 0 1930 6 21 0w
    18000 0 1981 10 1 0w
    21600 0 1982 4 1 0w
    18000 R 1991 3 31 7200s
    14400 R 1992 1 19 7200s
    18000 R 1994 9 25 7200s
    14400 R 2004 10 31 7200s
    18000 0"),
  ("Asia/Aqtobe", "
    13720 0 1924 5 2 0w
    14400 0 1930 6 21 0w
    18000 0 1981 4 1 0w
    18000 3600 1981 10 1 0w
    21600 0 1982 4 1 0w
    18000 R 1991 3 31 7200s
    14400 R 1992 1 19 7200s
    18000 R 2004 10 31 7200s
    18000 0"),
  ("Asia/Ashgabat", "
    14012 0 1924 5 2 0w
    14400 0 1930 6 21 0w
    18000 R 1991 3 31 7200w
    14400 R 1992 1 19 7200w
    18000 0"),
  ("Asia/Atyrau", "
    12464 0 1924 5 2 0w
    10800 0 1930 6 21 0w
    18000 0 1981 10 1 0w
    21600 0 1982 4 1 0w
    18000 R 1991 3 31 7200s
    14400 R 1992 1 19 7200s
    18000 R 1999 3 28 7200s
    14400 R 2004 10 31 7200s
    18000 0"),
  ("Asia/Baghdad", "
    10660 0 1890 1 1 0w
    10656 0 1918 1 1 0w
    10800 0 1982 5 1 0w
    10800 IQ"),
  ("Asia/Baku", "
    11964 0 1924 5 2 0w
    10800 0 1957 3 1 0w
    14400 R 1991 3 31 7200s
    10800 R 1992 9 last0 7200s
    14400 0 1996 1 1 0w
    14400 E 1997 1 1 0w
    14400 AZ"),
  ("Asia/Bangkok", "
    24124 0 1880 1 1 0w
    24124 0 1920 4 1 0w
    25200 0"),
  ("Asia/Barnaul", "
    20100 0 1919 12 10 0w
    21600 0 1930 6 21 0w
    25200 R 1991 3 31 7200s
    21600 R 1992 1 19 7200s
    25200 R 1995 5 28 0w
    21600 R 2011 3 27 7200s
    25200 0 2014 10 26 7200s
    21600 0 2016 3 27 7200s
    25200 0"),
  ("Asia/Beirut", "
    8520 0 1880 1 1 0w
    7200 l"),
  ("Asia/Bishkek", "
    17904 0 1924 5 2 0w
    18000 0 1930 6 21 0w
    21600 R 1991 3 31 7200s
    18000 R 1991 8 31 7200w
    18000 KG 2005 8 12 0w
    21600 0"),
  ("Asia/Chita", "
    27232 0 1919 12 15 0w
    28800 0 1930 6 21 0w
    32400 R 1991 3 31 7200s
    28800 R 1992 1 19 7200s
    32400 R 2011 3 27 7200s
    36000 0 2014 10 26 7200s
    28800 0 2016 3 27 7200w
    32400 0"),
  ("Asia/Colombo", "
    19164 0 1880 1 1 0w
    19172 0 1906 1 1 0w
    19800 0 1942 1 5 0w
    19800 1800 1942 9 1 0w
    19800 3600 1945 10 16 7200w
    19800 0 1996 5 25 0w
    23400 0 1996 10 26 1800w
    21600 0 2006 4 15 1800w
    19800 0"),
  ("Asia/Damascus", "
    8712 0 1920 1 1 0w
    7200 S 2022 10 28 0w
    10800 0"),
  ("Asia/Dhaka", "
    21700 0 1890 1 1 0w
    21200 0 1941 10 1 0w
    23400 0 1942 5 15 0w
    19800 0 1942 9 1 0w
    23400 0 1951 9 30 0w
    21600 0 2009 1 1 0w
    21600 BD"),
  ("Asia/Dili", "
    30140 0 1911 12 31 57600u
    28800 0 1942 2 21 82800w
    32400 0 1976 5 3 0w
    28800 0 2000 9 17 0w
    32400 0"),
  ("Asia/Dubai", "
    13272 0 1920 1 1 0w
    14400 0"),
  ("Asia/Dushanbe", "
    16512 0 1924 5 2 0w
    18000 0 1930 6 21 0w
    21600 R 1991 3 31 7200s
    18000 3600 1991 9 9 7200s
    18000 0"),
  ("Asia/Famagusta", "
    8148 0 1921 11 14 0w
    7200 CY 1998 9 1 0w
    7200 E 2016 9 8 0w
    10800 0 2017 10 29 3600u
    7200 E"),
  ("Asia/Gaza", "
    8272 0 1900 10 1 0w
    7200 Z 1948 5 15 0w
    7200 K 1967 6 5 0w
    7200 Z 1996 1 1 0w
    7200 J 1999 1 1 0w
    7200 P 2008 8 29 0w
    7200 0 2008 9 1 0w
    7200 P 2010 1 1 0w
    7200 0 2010 3 27 60w
    7200 P 2011 8 1 0w
    7200 0 2012 1 1 0w
    7200 P"),
  ("Asia/Hebron", "
    8423 0 1900 10 1 0w
    7200 Z 1948 5 15 0w
    7200 K 1967 6 5 0w
    7200 Z 1996 1 1 0w
    7200 J 1999 1 1 0w
    7200 P"),
  ("Asia/Ho_Chi_Minh", "
    25590 0 1906 7 1 0w
    25590 0 1911 5 1 0w
    25200 0 1942 12 31 82800w
    28800 0 1945 3 14 82800w
    32400 0 1945 9 1 86400w
    25200 0 1947 4 1 0w
    28800 0 1955 7 1 3600w
    25200 0 1959 12 31 82800w
    28800 0 1975 6 13 0w
    25200 0"),
  ("Asia/Hong_Kong", "
    27402 0 1904 10 29 61200u
    28800 0 1941 6 15 10800w
    28800 3600 1941 10 1 14400w
    28800 1800 1941 12 25 0w
    32400 0 1945 11 18 7200w
    28800 HK"),
  ("Asia/Hovd", "
    21996 0 1905 8 1 0w
    21600 0 1978 1 1 0w
    25200 X"),
  ("Asia/Irkutsk", "
    25025 0 1880 1 1 0w
    25025 0 1920 1 25 0w
    25200 0 1930 6 21 0w
    28800 R 1991 3 31 7200s
    25200 R 1992 1 19 7200s
    28800 R 2011 3 27 7200s
    32400 0 2014 10 26 7200s
    28800 0"),
  ("Asia/Jakarta", "
    25632 0 1867 8 10 0w
    25632 0 1923 12 31 60000u
    26400 0 1932 11 1 0w
    27000 0 1942 3 23 0w
    32400 0 1945 9 23 0w
    27000 0 1948 5 1 0w
    28800 0 1950 5 1 0w
    27000 0 1964 1 1 0w
    25200 0"),
  ("Asia/Jayapura", "
    33768 0 1932 11 1 0w
    32400 0 1944 9 1 0w
    34200 0 1964 1 1 0w
    32400 0"),
  ("Asia/Jerusalem", "
    8454 0 1880 1 1 0w
    8440 0 1918 1 1 0w
    7200 Z"),
  ("Asia/Kabul", "
    16608 0 1890 1 1 0w
    14400 0 1945 1 1 0w
    16200 0"),
  ("Asia/Kamchatka", "
    38076 0 1922 11 10 0w
    39600 0 1930 6 21 0w
    43200 R 1991 3 31 7200s
    39600 R 1992 1 19 7200s
    43200 R 2010 3 28 7200s
    39600 R 2011 3 27 7200s
    43200 0"),
  ("Asia/Karachi", "
    16092 0 1907 1 1 0w
    19800 0 1942 9 1 0w
    19800 3600 1945 10 15 0w
    19800 0 1951 9 30 0w
    18000 0 1971 3 26 0w
    18000 PK"),
  ("Asia/Kathmandu", "
    20476 0 1920 1 1 0w
    19800 0 1986 1 1 0w
    20700 0"),
  ("Asia/Khandyga", "
    32533 0 1919 12 15 0w
    28800 0 1930 6 21 0w
    32400 R 1991 3 31 7200s
    28800 R 1992 1 19 7200s
    32400 R 2004 1 1 0w
    36000 R 2011 3 27 7200s
    39600 0 2011 9 13 0s
    36000 0 2014 10 26 7200s
    32400 0"),
  ("Asia/Kolkata", "
    21208 0 1854 6 28 0w
    21200 0 1870 1 1 0w
    19270 0 1906 1 1 0w
    19800 0 1941 10 1 0w
    19800 3600 1942 5 15 0w
    19800 0 1942 9 1 0w
    19800 3600 1945 10 15 0w
    19800 0"),
  ("Asia/Krasnoyarsk", "
    22286 0 1920 1 6 0w
    21600 0 1930 6 21 0w
    25200 R 1991 3 31 7200s
    21600 R 1992 1 19 7200s
    25200 R 2011 3 27 7200s
    28800 0 2014 10 26 7200s
    25200 0"),
  ("Asia/Kuching", "
    26480 0 1926 3 1 0w
    27000 0 1933 1 1 0w
    28800 NB 1942 2 16 0w
    32400 0 1945 9 12 0w
    28800 0"),
  ("Asia/Macau", "
    27250 0 1904 10 30 0w
    28800 0 1941 12 21 82800w
    32400 _ 1945 9 30 86400w
    28800 _"),
  ("Asia/Magadan", "
    36192 0 1924 5 2 0w
    36000 0 1930 6 21 0w
    39600 R 1991 3 31 7200s
    36000 R 1992 1 19 7200s
    39600 R 2011 3 27 7200s
    43200 0 2014 10 26 7200s
    36000 0 2016 4 24 7200s
    39600 0"),
  ("Asia/Makassar", "
    28656 0 1920 1 1 0w
    28656 0 1932 11 1 0w
    28800 0 1942 2 9 0w
    32400 0 1945 9 23 0w
    28800 0"),
  ("Asia/Manila", "
    -57368 0 1844 12 31 0w
    29032 0 1899 9 6 14400u
    28800 PH 1942 2 11 86400w
    32400 0 1945 3 4 0w
    28800 PH"),
  ("Asia/Nicosia", "
    8008 0 1921 11 14 0w
    7200 CY 1998 9 1 0w
    7200 E"),
  ("Asia/Novokuznetsk", "
    20928 0 1924 5 1 0w
    21600 0 1930 6 21 0w
    25200 R 1991 3 31 7200s
    21600 R 1992 1 19 7200s
    25200 R 2010 3 28 7200s
    21600 R 2011 3 27 7200s
    25200 0"),
  ("Asia/Novosibirsk", "
    19900 0 1919 12 14 21600w
    21600 0 1930 6 21 0w
    25200 R 1991 3 31 7200s
    21600 R 1992 1 19 7200s
    25200 R 1993 5 23 0w
    21600 R 2011 3 27 7200s
    25200 0 2014 10 26 7200s
    21600 0 2016 7 24 7200s
    25200 0"),
  ("Asia/Omsk", "
    17610 0 1919 11 14 0w
    18000 0 1930 6 21 0w
    21600 R 1991 3 31 7200s
    18000 R 1992 1 19 7200s
    21600 R 2011 3 27 7200s
    25200 0 2014 10 26 7200s
    21600 0"),
  ("Asia/Oral", "
    12324 0 1924 5 2 0w
    10800 0 1930 6 21 0w
    18000 0 1981 4 1 0w
    18000 3600 1981 10 1 0w
    21600 0 1982 4 1 0w
    18000 R 1989 3 26 7200s
    14400 R 1992 1 19 7200s
    18000 R 1992 3 29 7200s
    14400 R 2004 10 31 7200s
    18000 0"),
  ("Asia/Pontianak", "
    26240 0 1908 5 1 0w
    26240 0 1932 11 1 0w
    27000 0 1942 1 29 0w
    32400 0 1945 9 23 0w
    27000 0 1948 5 1 0w
    28800 0 1950 5 1 0w
    27000 0 1964 1 1 0w
    28800 0 1988 1 1 0w
    25200 0"),
  ("Asia/Pyongyang", "
    30180 0 1908 4 1 0w
    30600 0 1912 1 1 0w
    32400 0 1945 8 24 0w
    32400 0 2015 8 15 0w
    30600 0 2018 5 4 84600w
    32400 0"),
  ("Asia/Qatar", "
    12368 0 1920 1 1 0w
    14400 0 1972 6 1 0w
    10800 0"),
  ("Asia/Qostanay", "
    15268 0 1924 5 2 0w
    14400 0 1930 6 21 0w
    18000 0 1981 4 1 0w
    18000 3600 1981 10 1 0w
    21600 0 1982 4 1 0w
    18000 R 1991 3 31 7200s
    14400 R 1992 1 19 7200s
    18000 R 2004 10 31 7200s
    21600 0 2024 3 1 0w
    18000 0"),
  ("Asia/Qyzylorda", "
    15712 0 1924 5 2 0w
    14400 0 1930 6 21 0w
    18000 0 1981 4 1 0w
    18000 3600 1981 10 1 0w
    21600 0 1982 4 1 0w
    18000 R 1991 3 31 7200s
    14400 R 1991 9 29 7200s
    18000 R 1992 1 19 7200s
    21600 R 1992 3 29 7200s
    18000 R 2004 10 31 7200s
    21600 0 2018 12 21 0w
    18000 0"),
  ("Asia/Riyadh", "
    11212 0 1947 3 14 0w
    10800 0"),
  ("Asia/Sakhalin", "
    34248 0 1905 8 23 0w
    32400 0 1945 8 25 0w
    39600 R 1991 3 31 7200s
    36000 R 1992 1 19 7200s
    39600 R 1997 3 last0 7200s
    36000 R 2011 3 27 7200s
    39600 0 2014 10 26 7200s
    36000 0 2016 3 27 7200s
    39600 0"),
  ("Asia/Samarkand", "
    16073 0 1924 5 2 0w
    14400 0 1930 6 21 0w
    18000 0 1981 4 1 0w
    18000 3600 1981 10 1 0w
    21600 0 1982 4 1 0w
    18000 R 1992 1 1 0w
    18000 0"),
  ("Asia/Seoul", "
    30472 0 1908 4 1 0w
    30600 0 1912 1 1 0w
    32400 0 1945 9 8 0w
    32400 KR 1954 3 21 0w
    30600 KR 1961 8 10 0w
    32400 KR"),
  ("Asia/Shanghai", "
    29143 0 1901 1 1 0w
    28800 Sh 1949 5 28 0w
    28800 CN"),
  ("Asia/Singapore", "
    24925 0 1901 1 1 0w
    24925 0 1905 6 1 0w
    25200 0 1933 1 1 0w
    25200 1200 1936 1 1 0w
    26400 0 1941 9 1 0w
    27000 0 1942 2 16 0w
    32400 0 1945 9 12 0w
    27000 0 1981 12 31 57600u
    28800 0"),
  ("Asia/Srednekolymsk", "
    36892 0 1924 5 2 0w
    36000 0 1930 6 21 0w
    39600 R 1991 3 31 7200s
    36000 R 1992 1 19 7200s
    39600 R 2011 3 27 7200s
    43200 0 2014 10 26 7200s
    39600 0"),
  ("Asia/Taipei", "
    29160 0 1896 1 1 0w
    28800 0 1937 10 1 0w
    32400 0 1945 9 21 3600w
    28800 f"),
  ("Asia/Tashkent", "
    16631 0 1924 5 2 0w
    18000 0 1930 6 21 0w
    21600 R 1991 3 31 7200w
    18000 R 1992 1 1 0w
    18000 0"),
  ("Asia/Tbilisi", "
    10751 0 1880 1 1 0w
    10751 0 1924 5 2 0w
    10800 0 1957 3 1 0w
    14400 R 1991 3 31 7200s
    10800 R 1992 1 1 0w
    10800 e 1994 9 last0 0w
    14400 e 1996 10 last0 0w
    14400 3600 1997 3 last0 0w
    14400 e 2004 6 27 0w
    10800 R 2005 3 last0 7200w
    14400 0"),
  ("Asia/Tehran", "
    12344 0 1916 1 1 0w
    12344 0 1935 6 13 0w
    12600 i 1977 10 20 86400w
    14400 i 1978 11 10 86400w
    12600 i"),
  ("Asia/Thimphu", "
    21516 0 1947 8 15 0w
    19800 0 1987 10 1 0w
    21600 0"),
  ("Asia/Tokyo", "
    33539 0 1887 12 31 54000u
    32400 JP"),
  ("Asia/Tomsk", "
    20391 0 1919 12 22 0w
    21600 0 1930 6 21 0w
    25200 R 1991 3 31 7200s
    21600 R 1992 1 19 7200s
    25200 R 2002 5 1 10800w
    21600 R 2011 3 27 7200s
    25200 0 2014 10 26 7200s
    21600 0 2016 5 29 7200s
    25200 0"),
  ("Asia/Ulaanbaatar", "
    25652 0 1905 8 1 0w
    25200 0 1978 1 1 0w
    28800 X"),
  ("Asia/Urumqi", "
    21020 0 1928 1 1 0w
    21600 0"),
  ("Asia/Ust-Nera", "
    34374 0 1919 12 15 0w
    28800 0 1930 6 21 0w
    32400 R 1981 4 1 0w
    39600 R 1991 3 31 7200s
    36000 R 1992 1 19 7200s
    39600 R 2011 3 27 7200s
    43200 0 2011 9 13 0s
    39600 0 2014 10 26 7200s
    36000 0"),
  ("Asia/Vladivostok", "
    31651 0 1922 11 15 0w
    32400 0 1930 6 21 0w
    36000 R 1991 3 31 7200s
    32400 R 1992 1 19 7200s
    36000 R 2011 3 27 7200s
    39600 0 2014 10 26 7200s
    36000 0")]

/-- The eras of these zones, part 2 of 2. -/
def asia2 : List (String × String) := [
  ("Asia/Yakutsk", "
    31138 0 1919 12 15 0w
    28800 0 1930 6 21 0w
    32400 R 1991 3 31 7200s
    28800 R 1992 1 19 7200s
    32400 R 2011 3 27 7200s
    36000 0 2014 10 26 7200s
    32400 0"),
  ("Asia/Yangon", "
    23087 0 1880 1 1 0w
    23087 0 1920 1 1 0w
    23400 0 1942 5 1 0w
    32400 0 1945 5 3 0w
    23400 0"),
  ("Asia/Yekaterinburg", "
    14553 0 1916 7 3 0w
    13505 0 1919 7 15 14400w
    14400 0 1930 6 21 0w
    18000 R 1991 3 31 7200s
    14400 R 1992 1 19 7200s
    18000 R 2011 3 27 7200s
    21600 0 2014 10 26 7200s
    18000 0"),
  ("Asia/Yerevan", "
    10680 0 1924 5 2 0w
    10800 0 1957 3 1 0w
    14400 R 1991 3 31 7200s
    10800 R 1995 9 24 7200s
    14400 0 1997 1 1 0w
    14400 R 2011 1 1 0w
    14400 AM")]

/-- The eras of all these zones. -/
def asia : List (String × String) := asia1 ++ asia2

end VisitBooking.Zone.Data
