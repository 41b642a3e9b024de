/-!
# Eras of the zones of Europe

Each entry has the name of a zone and its eras, one a line and in order: the standard offset in
seconds, then the saving in seconds or the name of a rule set, and, but for the last era, the year,
month, day and time of its end.
-/

namespace VisitBooking.Zone.Data

/-- The eras of these zones. -/
def europe : List (String × String) := [
  ("Europe/Andorra", "
    364 0 1901 1 1 0w
    0 0 1946 9 30 0w
    3600 0 1985 3 31 7200w
    3600 E"),
  ("Europe/Astrakhan", "
    11532 0 1924 5 1 0w
    10800 0 1930 6 21 0w
    14400 R 1989 3 26 7200s
    10800 R 1991 3 31 7200s
    14400 0 1992 3 29 7200s
    10800 R 2011 3 27 7200s
    14400 0 2014 10 26 7200s
    10800 0 2016 3 27 7200s
    14400 0"),
  ("Europe/Athens", "
    5692 0 1895 9 14 0w
    5692 0 1916 7 28 60w
    7200 g 1941 4 30 0w
    3600 g 1944 4 4 0w
    7200 g 1981 1 1 0w
    7200 E"),
  ("Europe/Belgrade", "
    4920 0 1884 1 1 0w
    3600 0 1941 4 18 82800w
    3600 c 1945 1 1 0w
    3600 0 1945 5 8 7200s
    3600 3600 1945 9 16 7200s
    3600 0 1982 11 27 0w
    3600 E"),
  ("Europe/Berlin", "
    3208 0 1893 4 1 0w
    3600 c 1945 5 24 7200w
    3600 So 1946 1 1 0w
    3600 DE 1980 1 1 0w
    3600 E"),
  ("Europe/Brussels", "
    1050 0 1880 1 1 0w
    1050 0 1892 5 1 1050w
    0 0 1914 11 8 0w
    3600 0 1916 5 1 0w
    3600 c 1918 11 11 39600u
    0 b 1940 5 20 7200s
    3600 c 1944 9 3 0w
    3600 b 1977 1 1 0w
    3600 E"),
  ("Europe/Bucharest", "
    6264 0 1891 10 1 0w
    6264 0 1931 7 24 0w
    7200 z 1981 3 29 7200s
    7200 c 1991 1 1 0w
    7200 z 1994 1 1 0w
    7200 e 1997 1 1 0w
    7200 E"),
  ("Europe/Budapest", "
    4580 0 1890 11 1 0w
    3600 c 1918 1 1 0w
    3600 h 1941 4 7 82800w
    3600 c 1945 1 1 0w
    3600 h 1984 1 1 0w
    3600 E"),
  ("Europe/Chisinau", "
    6920 0 1880 1 1 0w
    6900 0 1918 2 15 0w
    6264 0 1931 7 24 0w
    7200 z 1940 8 15 0w
    7200 3600 1941 7 17 0w
    3600 c 1944 8 24 0w
    10800 R 1990 5 6 7200w
    7200 R 1992 1 1 0w
    7200 e 1997 1 1 0w
    7200 MD"),
  ("Europe/Dublin", "
    -1521 0 1880 8 2 0w
    -1521 0 1916 5 21 7200s
    -1521 3600 1916 10 1 7200s
    0 G 1921 12 6 0w
    0 G 1940 2 25 7200s
    0 3600 1946 10 6 7200s
    0 0 1947 3 16 7200s
    0 3600 1947 11 2 7200s
    0 0 1948 4 18 7200s
    0 G 1968 10 27 0w
    3600 0 1971 10 31 7200u
    0 G 1996 1 1 0w
    0 E"),
  ("Europe/Gibraltar", "
    -1284 0 1880 8 2 0w
    0 G 1957 4 14 7200w
    3600 0 1982 1 1 0w
    3600 E"),
  ("Europe/Helsinki", "
    5989 0 1878 5 31 0w
    5989 0 1921 5 1 0w
    7200 FI 1983 1 1 0w
    7200 E"),
  ("Europe/Istanbul", "
    6952 0 1880 1 1 0w
    7016 0 1910 10 1 0w
    7200 T 1978 6 29 0w
    10800 T 1984 11 1 7200w
    7200 T 2007 1 1 0w
    7200 E 2011 3 27 3600u
    7200 0 2011 3 28 3600u
    7200 E 2014 3 30 3600u
    7200 0 2014 3 31 3600u
    7200 E 2015 10 25 3600u
    7200 3600 2015 11 8 3600u
    7200 E 2016 9 7 0w
    10800 0"),
  ("Europe/Kaliningrad", "
    4920 0 1893 4 1 0w
    3600 c 1945 4 10 0w
    7200 O 1946 4 7 0w
    10800 R 1989 3 26 7200s
    7200 R 2011 3 27 7200s
    10800 0 2014 10 26 7200s
    7200 0"),
  ("Europe/Kirov", "
    11928 0 1919 7 1 0u
    10800 0 1930 6 21 0w
    14400 R 1989 3 26 7200s
    10800 R 1991 3 31 7200s
    14400 0 1992 3 29 7200s
    10800 R 2011 3 27 7200s
    14400 0 2014 10 26 7200s
    10800 0"),
  ("Europe/Kyiv", "
    7324 0 1880 1 1 0w
    7324 0 1924 5 2 0w
    7200 0 1930 6 21 0w
    10800 0 1941 9 20 0w
    3600 c 1943 11 6 0w
    10800 R 1990 7 1 7200w
    7200 3600 1991 9 29 10800w
    7200 c 1996 5 13 0w
    7200 E"),
  ("Europe/Lisbon", "
    -2205 0 1884 1 1 0w
    -2205 0 1912 1 1 0u
    0 p 1966 10 2 7200s
    3600 0 1976 9 26 3600w
    0 p 1986 1 1 0w
    0 E 1992 9 27 3600u
    3600 E 1996 3 31 3600u
    0 E"),
  ("Europe/London", "
    -75 0 1847 12 1 0w
    0 G 1968 10 27 0w
    3600 0 1971 10 31 7200u
    0 G 1996 1 1 0w
    0 E"),
  ("Europe/Madrid", "
    -884 0 1901 1 1 0u
    0 s 1940 3 16 82800w
    3600 s 1979 1 1 0w
    3600 E"),
  ("Europe/Malta", "
    3484 0 1893 11 2 0w
    3600 I 1973 3 31 0w
    3600 MT 1981 1 1 0w
    3600 E"),
  ("Europe/Minsk", "
    6616 0 1880 1 1 0w
    6600 0 1924 5 2 0w
    7200 0 1930 6 21 0w
    10800 0 1941 6 28 0w
    3600 c 1944 7 3 0w
    10800 R 1990 1 1 0w
    10800 0 1991 3 31 7200s
    7200 R 2011 3 27 7200s
    10800 0"),
  ("Europe/Moscow", "
    9017 0 1880 1 1 0w
    9017 0 1916 7 3 0w
    9079 R 1919 7 1 0u
    10800 R 1921 10 1 0w
    10800 R 1922 10 1 0w
    7200 0 1930 6 21 0w
    10800 R 1991 3 31 7200s
    7200 R 1992 1 19 7200s
    10800 R 2011 3 27 7200s
    14400 0 2014 10 26 7200s
    10800 0"),
  ("Europe/Paris", "
    561 0 1891 3 16 0w
    561 0 1911 3 11 0w
    0 F 1940 6 14 82800w
    3600 c 1944 8 25 0w
    0 F 1945 9 16 10800w
    3600 F 1977 1 1 0w
    3600 E"),
  ("Europe/Prague", "
    3464 0 1850 1 1 0w
    3464 0 1891 10 1 0w
    3600 c 1945 5 9 0w
    3600 CZ 1946 12 1 10800w
    0 0 1947 2 23 7200w
    3600 CZ 1979 1 1 0w
    3600 E"),
  ("Europe/Riga", "
    5794 0 1880 1 1 0w
    5794 0 1918 4 15 7200w
    5794 3600 1918 9 16 10800w
    5794 0 1919 4 1 7200w
    5794 3600 1919 5 22 10800w
    5794 0 1926 5 11 0w
    7200 0 1940 8 5 0w
    10800 0 1941 7 1 0w
    3600 c 1944 10 13 0w
    10800 R 1989 3 last0 7200s
    7200 3600 1989 9 last0 7200s
    7200 LV 1997 1 21 0w
    7200 E 2000 2 29 0w
    7200 0 2001 1 2 0w
    7200 E"),
  ("Europe/Rome", "
    2996 0 1866 12 12 0w
    2996 0 1893 10 31 82800u
    3600 I 1943 9 10 0w
    3600 c 1944 6 4 0w
    3600 I 1980 1 1 0w
    3600 E"),
  ("Europe/Samara", "
    12020 0 1919 7 1 0u
    10800 0 1930 6 21 0w
    14400 0 1935 1 27 0w
    14400 R 1989 3 26 7200s
    10800 R 1991 3 31 7200s
    7200 R 1991 9 29 7200s
    10800 0 1991 10 20 10800w
    14400 R 2010 3 28 7200s
    10800 R 2011 3 27 7200s
    14400 0"),
  ("Europe/Saratov", "
    11058 0 1919 7 1 0u
    10800 0 1930 6 21 0w
    14400 R 1988 3 27 7200s
    10800 R 1991 3 31 7200s
    14400 0 1992 3 29 7200s
    10800 R 2011 3 27 7200s
    14400 0 2014 10 26 7200s
    10800 0 2016 12 4 7200s
    14400 0"),
  ("Europe/Simferopol", "
    8184 0 1880 1 1 0w
    8160 0 1924 5 2 0w
    7200 0 1930 6 21 0w
    10800 0 1941 11 1 0w
    3600 c 1944 4 13 0w
    10800 R 1990 1 1 0w
    10800 0 1990 7 1 7200w
    7200 0 1992 3 20 0w
    7200 c 1994 5 1 0w
    10800 c 1996 3 31 0s
    10800 3600 1996 10 27 10800s
    10800 0 1997 3 last0 3600u
    7200 E 2014 3 30 7200w
    14400 0 2014 10 26 7200s
    10800 0"),
  ("Europe/Sofia", "
    5596 0 1880 1 1 0w
    7016 0 1894 11 30 0w
    7200 0 1942 11 2 10800w
    3600 c 1945 1 1 0w
    3600 0 1945 4 2 10800w
    7200 0 1979 3 31 82800w
    7200 BG 1982 9 26 10800w
    7200 c 1991 1 1 0w
    7200 e 1997 1 1 0w
    7200 E"),
  ("Europe/Tallinn", "
    5940 0 1880 1 1 0w
    5940 0 1918 2 1 0w
    3600 c 1919 7 1 0w
    5940 0 1921 5 1 0w
    7200 0 1940 8 6 0w
    10800 0 1941 9 15 0w
    3600 c 1944 9 22 0w
    10800 R 1989 3 26 7200s
    7200 3600 1989 9 24 7200s
    7200 c 1998 9 22 0w
    7200 E 1999 10 31 14400w
    7200 0 2002 2 21 0w
    7200 E"),
  ("Europe/Tirane", "
    4760 0 1914 1 1 0w
    3600 0 1940 6 16 0w
    3600 q 1984 7 1 0w
    3600 E"),
  ("Europe/Ulyanovsk", "
    11616 0 1919 7 1 0u
    10800 0 1930 6 21 0w
    14400 R 1989 3 26 7200s
    10800 R 1991 3 31 7200s
    7200 R 1992 1 19 7200s
    10800 R 2011 3 27 7200s
    14400 0 2014 10 26 7200s
    10800 0 2016 3 27 7200s
    14400 0"),
  ("Europe/Vienna", "
    3921 0 1893 4 1 0w
    3600 c 1920 1 1 0w
    3600 a 1940 4 1 7200s
    3600 c 1945 4 2 7200s
    3600 3600 1945 4 12 7200s
    3600 0 1946 1 1 0w
    3600 a 1981 1 1 0w
    3600 E"),
  ("Europe/Vilnius", "
    6076 0 1880 1 1 0w
    5040 0 1917 1 1 0w
    5736 0 1919 10 10 0w
    3600 0 1920 7 12 0w
    7200 0 1920 10 9 0w
    3600 0 1940 8 3 0w
    10800 0 1941 6 24 0w
    3600 c 1944 8 1 0w
    10800 R 1989 3 26 7200s
    7200 R 1991 9 29 7200s
    7200 c 1998 1 1 0w
    7200 0 1998 3 29 3600u
    3600 E 1999 10 31 3600u
    7200 0 2003 1 1 0w
    7200 E"),
  ("Europe/Volgograd", "
    10660 0 1920 1 3 0w
    10800 0 1930 6 21 0w
    14400 0 1961 11 11 0w
    14400 R 1988 3 27 7200s
    10800 R 1991 3 31 7200s
    14400 0 1992 3 29 7200s
    10800 R 2011 3 27 7200s
    14400 0 2014 10 26 7200s
    10800 0 2018 10 28 7200s
    14400 0 2020 12 27 7200s
    10800 0"),
  ("Europe/Warsaw", "
    5040 0 1880 1 1 0w
    5040 0 1915 8 5 0w
    3600 c 1918 9 16 10800w
    7200 O 1922 6 1 0w
    3600 O 1940 6 23 7200w
    3600 c 1944 10 1 0w
    3600 O 1977 1 1 0w
    3600 W- 1988 1 1 0w
    3600 E"),
  ("Europe/Zurich", "
    2048 0 1853 7 16 0w
    1786 0 1894 6 1 0w
    3600 CH 1981 1 1 0w
    3600 E")]

end VisitBooking.Zone.Data
