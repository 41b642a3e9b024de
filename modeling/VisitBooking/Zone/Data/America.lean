/-!
# Eras of the zones of America

Each entry has the name of a zone and its eras, one a line and in order: the standard offset in
seconds, then the saving in seconds or the name of a rule set, and, but for the last era, the year,
month, day and time of its end.
-/

namespace VisitBooking.Zone.Data

/-- The eras of these zones, part 1 of 2. -/
def america1 : List (String × String) := [
  ("America/Adak", "
    44002 0 1867 10 19 45875w
    -42398 0 1900 8 20 43200w
    -39600 0 1942 1 1 0w
    -39600 u 1946 1 1 0w
    -39600 0 1967 4 1 0w
    -39600 0 1969 1 1 0w
    -39600 u 1983 10 30 7200w
    -36000 u 1983 11 30 0w
    -36000 u"),
  ("America/Anchorage", "
    50424 0 1867 10 19 52297w
    -35976 0 1900 8 20 43200w
    -36000 0 1942 1 1 0w
    -36000 u 1967 4 1 0w
    -36000 0 1969 1 1 0w
    -36000 u 1983 10 30 7200w
    -32400 u 1983 11 30 0w
    -32400 u"),
  ("America/Araguaina", "
    -11568 0 1914 1 1 0w
    -10800 B 1990 9 17 0w
    -10800 0 1995 9 14 0w
    -10800 B 2003 9 24 0w
    -10800 0 2012 10 21 0w
    -10800 B 2013 9 1 0w
    -10800 0"),
  ("America/Argentina/Buenos_Aires", "
    -14028 0 1894 10 31 0w
    -15408 0 1920 5 1 0w
    -14400 0 1930 12 1 0w
    -14400 A 1969 10 5 0w
    -10800 A 1999 10 3 0w
    -14400 A 2000 3 3 0w
    -10800 A"),
  ("America/Argentina/Catamarca", "
    -15788 0 1894 10 31 0w
    -15408 0 1920 5 1 0w
    -14400 0 1930 12 1 0w
    -14400 A 1969 10 5 0w
    -10800 A 1991 3 3 0w
    -14400 0 1991 10 20 0w
    -10800 A 1999 10 3 0w
    -14400 A 2000 3 3 0w
    -10800 0 2004 6 1 0w
    -14400 0 2004 6 20 0w
    -10800 A 2008 10 18 0w
    -10800 0"),
  ("America/Argentina/Cordoba", "
    -15408 0 1894 10 31 0w
    -15408 0 1920 5 1 0w
    -14400 0 1930 12 1 0w
    -14400 A 1969 10 5 0w
    -10800 A 1991 3 3 0w
    -14400 0 1991 10 20 0w
    -10800 A 1999 10 3 0w
    -14400 A 2000 3 3 0w
    -10800 A"),
  ("America/Argentina/Jujuy", "
    -15672 0 1894 10 31 0w
    -15408 0 1920 5 1 0w
    -14400 0 1930 12 1 0w
    -14400 A 1969 10 5 0w
    -10800 A 1990 3 4 0w
    -14400 0 1990 10 28 0w
    -14400 3600 1991 3 17 0w
    -14400 0 1991 10 6 0w
    -10800 3600 1992 1 1 0w
    -10800 A 1999 10 3 0w
    -14400 A 2000 3 3 0w
    -10800 A 2008 10 18 0w
    -10800 0"),
  ("America/Argentina/La_Rioja", "
    -16044 0 1894 10 31 0w
    -15408 0 1920 5 1 0w
    -14400 0 1930 12 1 0w
    -14400 A 1969 10 5 0w
    -10800 A 1991 3 1 0w
    -14400 0 1991 5 7 0w
    -10800 A 1999 10 3 0w
    -14400 A 2000 3 3 0w
    -10800 0 2004 6 1 0w
    -14400 0 2004 6 20 0w
    -10800 A 2008 10 18 0w
    -10800 0"),
  ("America/Argentina/Mendoza", "
    -16516 0 1894 10 31 0w
    -15408 0 1920 5 1 0w
    -14400 0 1930 12 1 0w
    -14400 A 1969 10 5 0w
    -10800 A 1990 3 4 0w
    -14400 0 1990 10 15 0w
    -14400 3600 1991 3 1 0w
    -14400 0 1991 10 15 0w
    -14400 3600 1992 3 1 0w
    -14400 0 1992 10 18 0w
    -10800 A 1999 10 3 0w
    -14400 A 2000 3 3 0w
    -10800 0 2004 5 23 0w
    -14400 0 2004 9 26 0w
    -10800 A 2008 10 18 0w
    -10800 0"),
  ("America/Argentina/Rio_Gallegos", "
    -16612 0 1894 10 31 0w
    -15408 0 1920 5 1 0w
    -14400 0 1930 12 1 0w
    -14400 A 1969 10 5 0w
    -10800 A 1999 10 3 0w
    -14400 A 2000 3 3 0w
    -10800 0 2004 6 1 0w
    -14400 0 2004 6 20 0w
    -10800 A 2008 10 18 0w
    -10800 0"),
  ("America/Argentina/Salta", "
    -15700 0 1894 10 31 0w
    -15408 0 1920 5 1 0w
    -14400 0 1930 12 1 0w
    -14400 A 1969 10 5 0w
    -10800 A 1991 3 3 0w
    -14400 0 1991 10 20 0w
    -10800 A 1999 10 3 0w
    -14400 A 2000 3 3 0w
    -10800 A 2008 10 18 0w
    -10800 0"),
  ("America/Argentina/San_Juan", "
    -16444 0 1894 10 31 0w
    -15408 0 1920 5 1 0w
    -14400 0 1930 12 1 0w
    -14400 A 1969 10 5 0w
    -10800 A 1991 3 1 0w
    -14400 0 1991 5 7 0w
    -10800 A 1999 10 3 0w
    -14400 A 2000 3 3 0w
    -10800 0 2004 5 31 0w
    -14400 0 2004 7 25 0w
    -10800 A 2008 10 18 0w
    -10800 0"),
  ("America/Argentina/San_Luis", "
    -15924 0 1894 10 31 0w
    -15408 0 1920 5 1 0w
    -14400 0 1930 12 1 0w
    -14400 A 1969 10 5 0w
    -10800 A 1990 1 1 0w
    -10800 3600 1990 3 14 0w
    -14400 0 1990 10 15 0w
    -14400 3600 1991 3 1 0w
    -14400 0 1991 6 1 0w
    -10800 0 1999 10 3 0w
    -14400 3600 2000 3 3 0w
    -10800 0 2004 5 31 0w
    -14400 0 2004 7 25 0w
    -10800 A 2008 1 21 0w
    -14400 Sa 2009 10 11 0w
    -10800 0"),
  ("America/Argentina/Tucuman", "
    -15652 0 1894 10 31 0w
    -15408 0 1920 5 1 0w
    -14400 0 1930 12 1 0w
    -14400 A 1969 10 5 0w
    -10800 A 1991 3 3 0w
    -14400 0 1991 10 20 0w
    -10800 A 1999 10 3 0w
    -14400 A 2000 3 3 0w
    -10800 0 2004 6 1 0w
    -14400 0 2004 6 13 0w
    -10800 A"),
  ("America/Argentina/Ushuaia", "
    -16392 0 1894 10 31 0w
    -15408 0 1920 5 1 0w
    -14400 0 1930 12 1 0w
    -14400 A 1969 10 5 0w
    -10800 A 1999 10 3 0w
    -14400 A 2000 3 3 0w
    -10800 0 2004 5 30 0w
    -14400 0 2004 6 20 0w
    -10800 A 2008 10 18 0w
    -10800 0"),
  ("America/Asuncion", "
    -13840 0 1890 1 1 0w
    -13840 0 1931 10 10 0w
    -14400 0 1972 10 1 0w
    -10800 0 1974 4 1 0w
    -14400 y 2024 10 15 0w
    -10800 0"),
  ("America/Bahia", "
    -9244 0 1914 1 1 0w
    -10800 B 2003 9 24 0w
    -10800 0 2011 10 16 0w
    -10800 B 2012 10 21 0w
    -10800 0"),
  ("America/Bahia_Banderas", "
    -25260 0 1922 1 1 25200u
    -25200 0 1927 6 10 0w
    -21600 0 1930 11 15 0w
    -25200 m 1932 4 1 0w
    -21600 0 1942 4 24 0w
    -25200 0 1970 1 1 0w
    -25200 m 2010 4 4 7200w
    -21600 m"),
  ("America/Barbados", "
    -14309 0 1911 8 28 0w
    -14400 BB 1944 1 1 0w
    -14400 BB 1945 1 1 0w
    -14400 BB"),
  ("America/Belem", "
    -11636 0 1914 1 1 0w
    -10800 B 1988 9 12 0w
    -10800 0"),
  ("America/Belize", "
    -21168 0 1912 4 1 0w
    -21600 BZ"),
  ("America/Boa_Vista", "
    -14560 0 1914 1 1 0w
    -14400 B 1988 9 12 0w
    -14400 0 1999 9 30 0w
    -14400 B 2000 10 15 0w
    -14400 0"),
  ("America/Bogota", "
    -17776 0 1884 3 13 0w
    -17776 0 1914 11 23 0w
    -18000 CO"),
  ("America/Boise", "
    -27889 0 1883 11 18 72000u
    -28800 u 1923 5 13 7200w
    -25200 u 1974 1 1 0w
    -25200 0 1974 2 3 7200w
    -25200 u"),
  ("America/Cambridge_Bay", "
    0 0 1920 1 1 0w
    -25200 Y 1999 10 31 7200w
    -21600 C 2000 10 29 7200w
    -18000 0 2000 11 5 0w
    -21600 0 2001 4 1 10800w
    -25200 C"),
  ("America/Campo_Grande", "
    -13108 0 1914 1 1 0w
    -14400 B"),
  ("America/Cancun", "
    -20824 0 1922 1 1 21600u
    -21600 0 1981 12 26 7200w
    -18000 0 1983 1 4 0w
    -21600 m 1997 10 26 7200w
    -18000 m 1998 8 2 7200w
    -21600 m 2015 2 1 7200w
    -18000 0"),
  ("America/Caracas", "
    -16064 0 1890 1 1 0w
    -16060 0 1912 2 12 0w
    -16200 0 1965 1 1 0w
    -14400 0 2007 12 9 10800w
    -16200 0 2016 5 1 9000w
    -14400 0"),
  ("America/Cayenne", "
    -12560 0 1911 7 1 0w
    -14400 0 1967 10 1 0w
    -10800 0"),
  ("America/Chicago", "
    -21036 0 1883 11 18 64800u
    -21600 u 1920 1 1 0w
    -21600 Ch 1936 3 1 7200w
    -18000 0 1936 11 15 7200w
    -21600 Ch 1942 1 1 0w
    -21600 u 1946 1 1 0w
    -21600 Ch 1967 1 1 0w
    -21600 u"),
  ("America/Chihuahua", "
    -25460 0 1922 1 1 25200u
    -25200 0 1927 6 10 0w
    -21600 0 1930 11 15 0w
    -25200 m 1932 4 1 0w
    -21600 0 1996 1 1 0w
    -21600 m 1998 1 1 0w
    -21600 0 1998 4 0>=1 10800w
    -25200 m 2022 10 30 7200w
    -21600 0"),
  ("America/Ciudad_Juarez", "
    -25556 0 1922 1 1 25200u
    -25200 0 1927 6 10 0w
    -21600 0 1930 11 15 0w
    -25200 m 1932 4 1 0w
    -21600 0 1996 1 1 0w
    -21600 m 1998 1 1 0w
    -21600 0 1998 4 0>=1 10800w
    -25200 m 2010 1 1 0w
    -25200 u 2022 10 30 7200w
    -21600 0 2022 11 30 0w
    -25200 u"),
  ("America/Costa_Rica", "
    -20173 0 1890 1 1 0w
    -20173 0 1921 1 15 0w
    -21600 CR"),
  ("America/Coyhaique", "
    -17296 0 1890 1 1 0w
    -16965 0 1910 1 10 0w
    -18000 0 1916 7 1 0w
    -16965 0 1918 9 10 0w
    -14400 0 1919 7 1 0w
    -16965 0 1927 9 1 0w
    -18000 x 1932 9 1 0w
    -14400 0 1942 6 1 0w
    -18000 0 1942 8 1 0w
    -14400 0 1946 8 28 86400w
    -18000 3600 1947 3 31 86400w
    -18000 0 1947 5 21 82800w
    -14400 x 2025 3 20 0w
    -10800 0"),
  ("America/Cuiaba", "
    -13460 0 1914 1 1 0w
    -14400 B 2003 9 24 0w
    -14400 0 2004 10 1 0w
    -14400 B"),
  ("America/Danmarkshavn", "
    -4480 0 1916 7 28 0w
    -10800 0 1980 4 6 7200w
    -10800 E 1996 1 1 0w
    0 0"),
  ("America/Dawson", "
    -33460 0 1900 8 20 0w
    -32400 Y 1965 1 1 0w
    -32400 Yu 1973 10 28 0w
    -28800 0 1980 1 1 0w
    -28800 C 2020 11 1 0w
    -25200 0"),
  ("America/Dawson_Creek", "
    -28856 0 1884 1 1 0w
    -28800 C 1947 1 1 0w
    -28800 Va 1972 8 30 7200w
    -25200 0"),
  ("America/Denver", "
    -25196 0 1883 11 18 68400u
    -25200 u 1920 1 1 0w
    -25200 De 1942 1 1 0w
    -25200 u 1946 1 1 0w
    -25200 De 1967 1 1 0w
    -25200 u"),
  ("America/Detroit", "
    -19931 0 1905 1 1 0w
    -21600 0 1915 5 15 7200w
    -18000 0 1942 1 1 0w
    -18000 u 1946 1 1 0w
    -18000 Dt 1967 6 14 60w
    -18000 u 1969 1 1 0w
    -18000 0 1973 1 1 0w
    -18000 u 1975 1 1 0w
    -18000 0 1975 4 27 7200w
    -18000 u"),
  ("America/Edmonton", "
    -27232 0 1906 9 1 0w
    -25200 Ed 1987 1 1 0w
    -25200 C"),
  ("America/Eirunepe", "
    -16768 0 1914 1 1 0w
    -18000 B 1988 9 12 0w
    -18000 0 1993 9 28 0w
    -18000 B 1994 9 22 0w
    -18000 0 2008 6 24 0w
    -14400 0 2013 11 10 0w
    -18000 0"),
  ("America/El_Salvador", "
    -21408 0 1921 1 1 0w
    -21600 SV"),
  ("America/Fort_Nelson", "
    -29447 0 1884 1 1 0w
    -28800 Va 1946 1 1 0w
    -28800 0 1947 1 1 0w
    -28800 Va 1987 1 1 0w
    -28800 C 2015 3 8 7200w
    -25200 0"),
  ("America/Fortaleza", "
    -9240 0 1914 1 1 0w
    -10800 B 1990 9 17 0w
    -10800 0 1999 9 30 0w
    -10800 B 2000 10 22 0w
    -10800 0 2001 9 13 0w
    -10800 B 2002 10 1 0w
    -10800 0"),
  ("America/Glace_Bay", "
    -14388 0 1902 6 15 0w
    -14400 C 1953 1 1 0w
    -14400 H 1954 1 1 0w
    -14400 0 1972 1 1 0w
    -14400 H 1974 1 1 0w
    -14400 C"),
  ("America/Goose_Bay", "
    -14500 0 1884 1 1 0w
    -12652 0 1918 1 1 0w
    -12652 C 1919 1 1 0w
    -12652 0 1935 3 30 0w
    -12600 0 1936 1 1 0w
    -12600 j 1942 5 11 0w
    -12600 C 1946 1 1 0w
    -12600 j 1966 3 15 7200w
    -14400 j 2011 11 1 0w
    -14400 C"),
  ("America/Grand_Turk", "
    -17072 0 1890 1 1 0w
    -18430 0 1912 2 1 0w
    -18000 0 1979 1 1 0w
    -18000 u 2015 3 8 7200w
    -14400 0 2018 3 11 10800w
    -18000 u"),
  ("America/Guatemala", "
    -21724 0 1918 10 5 0w
    -21600 GT"),
  ("America/Guayaquil", "
    -19160 0 1890 1 1 0w
    -18840 0 1931 1 1 0w
    -18000 EC"),
  ("America/Guyana", "
    -13959 0 1911 8 1 0w
    -14400 0 1915 3 1 0w
    -13500 0 1975 8 1 0w
    -10800 0 1992 3 29 3600w
    -14400 0"),
  ("America/Halifax", "
    -15264 0 1902 6 15 0w
    -14400 H 1918 1 1 0w
    -14400 C 1919 1 1 0w
    -14400 H 1942 2 9 7200s
    -14400 C 1946 1 1 0w
    -14400 H 1974 1 1 0w
    -14400 C"),
  ("America/Havana", "
    -19768 0 1890 1 1 0w
    -19776 0 1925 7 19 43200w
    -18000 Q"),
  ("America/Hermosillo", "
    -26632 0 1922 1 1 25200u
    -25200 0 1927 6 10 0w
    -21600 0 1930 11 15 0w
    -25200 m 1932 4 1 0w
    -21600 0 1942 4 24 0w
    -25200 0 1996 1 1 0w
    -25200 m 1999 1 1 0w
    -25200 0"),
  ("America/Indiana/Indianapolis", "
    -20678 0 1883 11 18 64800u
    -21600 u 1920 1 1 0w
    -21600 In 1942 1 1 0w
    -21600 u 1946 1 1 0w
    -21600 In 1955 4 24 7200w
    -18000 0 1957 9 29 7200w
    -21600 0 1958 4 27 7200w
    -18000 0 1969 1 1 0w
    -18000 u 1971 1 1 0w
    -18000 0 2006 1 1 0w
    -18000 u"),
  ("America/Indiana/Knox", "
    -20790 0 1883 11 18 64800u
    -21600 u 1947 1 1 0w
    -21600 St 1962 4 29 7200w
    -18000 0 1963 10 27 7200w
    -21600 u 1991 10 27 7200w
    -18000 0 2006 4 2 7200w
    -21600 u"),
  ("America/Indiana/Marengo", "
    -20723 0 1883 11 18 64800u
    -21600 u 1951 1 1 0w
    -21600 Ma 1961 4 30 7200w
    -18000 0 1969 1 1 0w
    -18000 u 1974 1 6 7200w
    -21600 3600 1974 10 27 7200w
    -18000 u 1976 1 1 0w
    -18000 0 2006 1 1 0w
    -18000 u"),
  ("America/Indiana/Petersburg", "
    -20947 0 1883 11 18 64800u
    -21600 u 1955 1 1 0w
    -21600 Pi 1965 4 25 7200w
    -18000 0 1966 10 30 7200w
    -21600 u 1977 10 30 7200w
    -18000 0 2006 4 2 7200w
    -21600 u 2007 11 4 7200w
    -18000 u"),
  ("America/Indiana/Tell_City", "
    -20823 0 1883 11 18 64800u
    -21600 u 1946 1 1 0w
    -21600 Pe 1964 4 26 7200w
    -18000 0 1967 10 29 7200w
    -21600 u 1969 4 27 7200w
    -18000 u 1971 1 1 0w
    -18000 0 2006 4 2 7200w
    -21600 u"),
  ("America/Indiana/Vevay", "
    -20416 0 1883 11 18 64800u
    -21600 u 1954 4 25 7200w
    -18000 0 1969 1 1 0w
    -18000 u 1973 1 1 0w
    -18000 0 2006 1 1 0w
    -18000 u"),
  ("America/Indiana/Vincennes", "
    -21007 0 1883 11 18 64800u
    -21600 u 1946 1 1 0w
    -21600 V 1964 4 26 7200w
    -18000 0 1969 1 1 0w
    -18000 u 1971 1 1 0w
    -18000 0 2006 4 2 7200w
    -21600 u 2007 11 4 7200w
    -18000 u"),
  ("America/Indiana/Winamac", "
    -20785 0 1883 11 18 64800u
    -21600 u 1946 1 1 0w
    -21600 Pu 1961 4 30 7200w
    -18000 0 1969 1 1 0w
    -18000 u 1971 1 1 0w
    -18000 0 2006 4 2 7200w
    -21600 u 2007 3 11 7200w
    -18000 u"),
  ("America/Inuvik", "
    0 0 1953 1 1 0w
    -28800 Y 1979 4 last0 7200w
    -25200 Y 1980 1 1 0w
    -25200 C"),
  ("America/Iqaluit", "
    0 0 1942 8 1 0w
    -18000 Y 1999 10 31 7200w
    -21600 C 2000 10 29 7200w
    -18000 C"),
  ("America/Jamaica", "
    -18430 0 1890 1 1 0w
    -18430 0 1912 2 1 0w
    -18000 0 1974 1 1 0w
    -18000 u 1984 1 1 0w
    -18000 0"),
  ("America/Juneau", "
    54139 0 1867 10 19 56012w
    -32261 0 1900 8 20 43200w
    -28800 0 1942 1 1 0w
    -28800 u 1946 1 1 0w
    -28800 0 1969 1 1 0w
    -28800 u 1980 4 27 7200w
    -32400 u 1980 10 26 7200w
    -28800 u 1983 10 30 7200w
    -32400 u 1983 11 30 0w
    -32400 u"),
  ("America/Kentucky/Louisville", "
    -20582 0 1883 11 18 64800u
    -21600 u 1921 1 1 0w
    -21600 v 1942 1 1 0w
    -21600 u 1946 1 1 0w
    -21600 v 1961 7 23 7200w
    -18000 0 1968 1 1 0w
    -18000 u 1974 1 6 7200w
    -21600 3600 1974 10 27 7200w
    -18000 u"),
  ("America/Kentucky/Monticello", "
    -20364 0 1883 11 18 64800u
    -21600 u 1946 1 1 0w
    -21600 0 1968 1 1 0w
    -21600 u 2000 10 29 7200w
    -18000 u"),
  ("America/La_Paz", "
    -16356 0 1890 1 1 0w
    -16356 0 1931 10 15 0w
    -16356 3600 1932 3 21 0w
    -14400 0"),
  ("America/Lima", "
    -18492 0 1890 1 1 0w
    -18516 0 1908 7 28 0w
    -18000 PE")]

/-- The eras of these zones, part 2 of 2. -/
def america2 : List (String × String) := [
  ("America/Los_Angeles", "
    -28378 0 1883 11 18 72000u
    -28800 u 1946 1 1 0w
    -28800 CA 1967 1 1 0w
    -28800 u"),
  ("America/Maceio", "
    -8572 0 1914 1 1 0w
    -10800 B 1990 9 17 0w
    -10800 0 1995 10 13 0w
    -10800 B 1996 9 4 0w
    -10800 0 1999 9 30 0w
    -10800 B 2000 10 22 0w
    -10800 0 2001 9 13 0w
    -10800 B 2002 10 1 0w
    -10800 0"),
  ("America/Managua", "
    -20708 0 1890 1 1 0w
    -20712 0 1934 6 23 0w
    -21600 0 1973 5 1 0w
    -18000 0 1975 2 16 0w
    -21600 NI 1992 1 1 14400w
    -18000 0 1992 9 24 0w
    -21600 0 1993 1 1 0w
    -18000 0 1997 1 1 0w
    -21600 NI"),
  ("America/Manaus", "
    -14404 0 1914 1 1 0w
    -14400 B 1988 9 12 0w
    -14400 0 1993 9 28 0w
    -14400 B 1994 9 22 0w
    -14400 0"),
  ("America/Martinique", "
    -14660 0 1890 1 1 0w
    -14660 0 1911 5 1 0w
    -14400 0 1980 4 6 0w
    -14400 3600 1980 9 28 0w
    -14400 0"),
  ("America/Matamoros", "
    -23400 0 1922 1 1 21600u
    -21600 0 1988 1 1 0w
    -21600 u 1989 1 1 0w
    -21600 m 2010 1 1 0w
    -21600 u"),
  ("America/Mazatlan", "
    -25540 0 1922 1 1 25200u
    -25200 0 1927 6 10 0w
    -21600 0 1930 11 15 0w
    -25200 m 1932 4 1 0w
    -21600 0 1942 4 24 0w
    -25200 0 1970 1 1 0w
    -25200 m"),
  ("America/Menominee", "
    -21027 0 1885 9 18 43200w
    -21600 u 1946 1 1 0w
    -21600 Me 1969 4 27 7200w
    -18000 0 1973 4 29 7200w
    -21600 u"),
  ("America/Merida", "
    -21508 0 1922 1 1 21600u
    -21600 0 1981 12 26 7200w
    -18000 0 1982 11 2 7200w
    -21600 m"),
  ("America/Metlakatla", "
    54822 0 1867 10 19 56695w
    -31578 0 1900 8 20 43200w
    -28800 0 1942 1 1 0w
    -28800 u 1946 1 1 0w
    -28800 0 1969 1 1 0w
    -28800 u 1983 10 30 7200w
    -28800 0 2015 11 1 7200w
    -32400 u 2018 11 4 7200w
    -28800 0 2019 1 20 7200w
    -32400 u"),
  ("America/Mexico_City", "
    -23796 0 1922 1 1 25200u
    -25200 0 1927 6 10 0w
    -21600 0 1930 11 15 0w
    -25200 m 1932 4 1 0w
    -21600 m 2001 9 30 7200w
    -21600 0 2002 2 20 0w
    -21600 m"),
  ("America/Miquelon", "
    -13480 0 1911 6 15 0w
    -14400 0 1980 5 1 0w
    -10800 0 1987 1 1 0w
    -10800 C"),
  ("America/Moncton", "
    -15548 0 1883 12 9 0w
    -18000 0 1902 6 15 0w
    -14400 C 1933 1 1 0w
    -14400 o 1942 1 1 0w
    -14400 C 1946 1 1 0w
    -14400 o 1973 1 1 0w
    -14400 C 1993 1 1 0w
    -14400 o 2007 1 1 0w
    -14400 C"),
  ("America/Monterrey", "
    -24076 0 1922 1 1 21600u
    -25200 0 1927 6 10 0w
    -21600 0 1930 11 15 0w
    -25200 m 1932 4 1 0w
    -21600 0 1988 1 1 0w
    -21600 u 1989 1 1 0w
    -21600 m"),
  ("America/Montevideo", "
    -13491 0 1908 6 10 0w
    -13491 0 1920 5 1 0w
    -14400 0 1923 10 1 0w
    -12600 U 1942 12 14 0w
    -10800 U 1960 1 1 0w
    -10800 U 1968 1 1 0w
    -10800 U 1970 1 1 0w
    -10800 U 1974 1 1 0w
    -10800 U 1974 3 10 0w
    -10800 U 1974 12 22 0w
    -10800 U"),
  ("America/New_York", "
    -17762 0 1883 11 18 61200u
    -18000 u 1920 1 1 0w
    -18000 NY 1942 1 1 0w
    -18000 u 1946 1 1 0w
    -18000 NY 1967 1 1 0w
    -18000 u"),
  ("America/Nome", "
    46702 0 1867 10 19 48575w
    -39698 0 1900 8 20 43200w
    -39600 0 1942 1 1 0w
    -39600 u 1946 1 1 0w
    -39600 0 1967 4 1 0w
    -39600 0 1969 1 1 0w
    -39600 u 1983 10 30 7200w
    -32400 u 1983 11 30 0w
    -32400 u"),
  ("America/Noronha", "
    -7780 0 1914 1 1 0w
    -7200 B 1990 9 17 0w
    -7200 0 1999 9 30 0w
    -7200 B 2000 10 15 0w
    -7200 0 2001 9 13 0w
    -7200 B 2002 10 1 0w
    -7200 0"),
  ("America/North_Dakota/Beulah", "
    -24427 0 1883 11 18 68400u
    -25200 u 2010 11 7 7200w
    -21600 u"),
  ("America/North_Dakota/Center", "
    -24312 0 1883 11 18 68400u
    -25200 u 1992 10 25 7200w
    -21600 u"),
  ("America/North_Dakota/New_Salem", "
    -24339 0 1883 11 18 68400u
    -25200 u 2003 10 26 7200w
    -21600 u"),
  ("America/Nuuk", "
    -12416 0 1916 7 28 0w
    -10800 0 1980 4 6 7200w
    -10800 E 2023 3 26 3600u
    -7200 0 2023 10 29 3600u
    -7200 E"),
  ("America/Ojinaga", "
    -25060 0 1922 1 1 25200u
    -25200 0 1927 6 10 0w
    -21600 0 1930 11 15 0w
    -25200 m 1932 4 1 0w
    -21600 0 1996 1 1 0w
    -21600 m 1998 1 1 0w
    -21600 0 1998 4 0>=1 10800w
    -25200 m 2010 1 1 0w
    -25200 u 2022 10 30 7200w
    -21600 0 2022 11 30 0w
    -21600 u"),
  ("America/Panama", "
    -19088 0 1890 1 1 0w
    -19176 0 1908 4 22 0w
    -18000 0"),
  ("America/Paramaribo", "
    -13240 0 1911 1 1 0w
    -13252 0 1935 1 1 0w
    -13236 0 1945 10 1 0w
    -12600 0 1984 10 1 0w
    -10800 0"),
  ("America/Phoenix", "
    -26898 0 1883 11 18 68400u
    -25200 u 1944 1 1 60w
    -25200 0 1944 4 1 60w
    -25200 u 1944 10 1 60w
    -25200 0 1967 1 1 0w
    -25200 u 1968 3 21 0w
    -25200 0"),
  ("America/Port-au-Prince", "
    -17360 0 1890 1 1 0w
    -17340 0 1917 1 24 43200w
    -18000 HT"),
  ("America/Porto_Velho", "
    -15336 0 1914 1 1 0w
    -14400 B 1988 9 12 0w
    -14400 0"),
  ("America/Puerto_Rico", "
    -15865 0 1899 3 28 43200w
    -14400 0 1942 5 3 0w
    -14400 u 1946 1 1 0w
    -14400 0"),
  ("America/Punta_Arenas", "
    -17020 0 1890 1 1 0w
    -16965 0 1910 1 10 0w
    -18000 0 1916 7 1 0w
    -16965 0 1918 9 10 0w
    -14400 0 1919 7 1 0w
    -16965 0 1927 9 1 0w
    -18000 x 1932 9 1 0w
    -14400 0 1942 6 1 0w
    -18000 0 1942 8 1 0w
    -14400 0 1946 8 28 86400w
    -18000 3600 1947 3 31 86400w
    -18000 0 1947 5 21 82800w
    -14400 x 2016 12 4 0w
    -10800 0"),
  ("America/Rankin_Inlet", "
    0 0 1957 1 1 0w
    -21600 Y 2000 10 29 7200w
    -18000 0 2001 4 1 10800w
    -21600 C"),
  ("America/Recife", "
    -8376 0 1914 1 1 0w
    -10800 B 1990 9 17 0w
    -10800 0 1999 9 30 0w
    -10800 B 2000 10 15 0w
    -10800 0 2001 9 13 0w
    -10800 B 2002 10 1 0w
    -10800 0"),
  ("America/Regina", "
    -25116 0 1905 9 1 0w
    -25200 r 1960 4 last0 7200w
    -21600 0"),
  ("America/Resolute", "
    0 0 1947 8 31 0w
    -21600 Y 2000 10 29 7200w
    -18000 0 2001 4 1 10800w
    -21600 C 2006 10 29 7200w
    -18000 0 2007 3 11 10800w
    -21600 C"),
  ("America/Rio_Branco", "
    -16272 0 1914 1 1 0w
    -18000 B 1988 9 12 0w
    -18000 0 2008 6 24 0w
    -14400 0 2013 11 10 0w
    -18000 0"),
  ("America/Santarem", "
    -13128 0 1914 1 1 0w
    -14400 B 1988 9 12 0w
    -14400 0 2008 6 24 0w
    -10800 0"),
  ("America/Santiago", "
    -16965 0 1890 1 1 0w
    -16965 0 1910 1 10 0w
    -18000 0 1916 7 1 0w
    -16965 0 1918 9 10 0w
    -14400 0 1919 7 1 0w
    -16965 0 1927 9 1 0w
    -18000 x 1932 9 1 0w
    -14400 0 1942 6 1 0w
    -18000 0 1942 8 1 0w
    -14400 0 1946 7 14 86400w
    -14400 3600 1946 8 28 86400w
    -18000 3600 1947 3 31 86400w
    -18000 0 1947 5 21 82800w
    -14400 x"),
  ("America/Santo_Domingo", "
    -16776 0 1890 1 1 0w
    -16800 0 1933 4 1 43200w
    -18000 DO 1974 10 27 0w
    -14400 0 2000 10 29 7200w
    -18000 u 2000 12 3 3600w
    -14400 0"),
  ("America/Sao_Paulo", "
    -11188 0 1914 1 1 0w
    -10800 B 1963 10 23 0w
    -10800 3600 1964 1 1 0w
    -10800 B"),
  ("America/Scoresbysund", "
    -5272 0 1916 7 28 0w
    -7200 0 1980 4 6 7200w
    -7200 c 1981 3 29 0w
    -3600 E 2024 3 31 0w
    -7200 E"),
  ("America/Sitka", "
    53927 0 1867 10 19 55800w
    -32473 0 1900 8 20 43200w
    -28800 0 1942 1 1 0w
    -28800 u 1946 1 1 0w
    -28800 0 1969 1 1 0w
    -28800 u 1983 10 30 7200w
    -32400 u 1983 11 30 0w
    -32400 u"),
  ("America/St_Johns", "
    -12652 0 1884 1 1 0w
    -12652 j 1918 1 1 0w
    -12652 C 1919 1 1 0w
    -12652 j 1935 3 30 0w
    -12600 j 1942 5 11 0w
    -12600 C 1946 1 1 0w
    -12600 j 2011 11 1 0w
    -12600 C"),
  ("America/Swift_Current", "
    -25880 0 1905 9 1 0w
    -25200 C 1946 4 last0 7200w
    -25200 r 1950 1 1 0w
    -25200 Sw 1972 4 last0 7200w
    -21600 0"),
  ("America/Tegucigalpa", "
    -20932 0 1921 4 1 0w
    -21600 HN"),
  ("America/Thule", "
    -16508 0 1916 7 28 0w
    -14400 Th"),
  ("America/Tijuana", "
    -28084 0 1922 1 1 25200u
    -25200 0 1924 1 1 0w
    -28800 0 1927 6 10 0w
    -25200 0 1930 11 15 0w
    -28800 0 1931 4 1 0w
    -28800 3600 1931 9 30 0w
    -28800 0 1942 4 24 0w
    -28800 3600 1945 8 14 82800u
    -28800 3600 1945 11 15 0w
    -28800 0 1948 4 5 0w
    -28800 3600 1949 1 14 0w
    -28800 0 1950 5 1 0w
    -28800 3600 1950 9 24 0w
    -28800 0 1951 4 29 7200w
    -28800 3600 1951 9 30 7200w
    -28800 0 1952 4 27 7200w
    -28800 3600 1952 9 28 7200w
    -28800 0 1954 1 1 0w
    -28800 CA 1961 1 1 0w
    -28800 0 1976 1 1 0w
    -28800 u 1996 1 1 0w
    -28800 m 2001 1 1 0w
    -28800 u 2002 2 20 0w
    -28800 m 2010 1 1 0w
    -28800 u"),
  ("America/Toronto", "
    -19052 0 1895 1 1 0w
    -18000 C 1919 1 1 0w
    -18000 t 1942 2 9 7200s
    -18000 C 1946 1 1 0w
    -18000 t 1974 1 1 0w
    -18000 C"),
  ("America/Vancouver", "
    -29548 0 1884 1 1 0w
    -28800 Va 1987 1 1 0w
    -28800 C"),
  ("America/Whitehorse", "
    -32412 0 1900 8 20 0w
    -32400 Y 1965 1 1 0w
    -32400 Yu 1966 2 27 0w
    -28800 0 1980 1 1 0w
    -28800 C 2020 11 1 0w
    -25200 0"),
  ("America/Winnipeg", "
    -23316 0 1887 7 16 0w
    -21600 W 2006 1 1 0w
    -21600 C"),
  ("America/Yakutat", "
    52865 0 1867 10 19 54738w
    -33535 0 1900 8 20 43200w
    -32400 0 1942 1 1 0w
    -32400 u 1946 1 1 0w
    -32400 0 1969 1 1 0w
    -32400 u 1983 11 30 0w
    -32400 u")]

/-- The eras of all these zones. -/
def america : List (String × String) := america1 ++ america2

end VisitBooking.Zone.Data
