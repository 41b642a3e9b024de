/-!
# Eras of the zones of Africa

Each entry has the name of a zone and its eras, one a line and in order: the standard offset in
seconds, then the saving in seconds or the name of a rule set, and, but for the last era, the year,
month, day and time of its end.
-/

namespace VisitBooking.Zone.Data

/-- The eras of these zones. -/
def africa : List (String × String) := [
  ("Africa/Abidjan", "
    -968 0 1912 1 1 0w
    0 0"),
  ("Africa/Algiers", "
    732 0 1891 3 16 0w
    561 0 1911 3 11 0w
    0 d 1940 2 25 7200w
    3600 d 1946 10 7 0w
    0 0 1956 1 29 0w
    3600 0 1963 4 14 0w
    0 d 1977 10 21 0w
    3600 d 1979 10 26 0w
    0 d 1981 5 1 0w
    3600 0"),
  ("Africa/Bissau", "
    -3740 0 1912 1 1 3600u
    -3600 0 1975 1 1 0w
    0 0"),
  ("Africa/Cairo", "
    7509 0 1900 10 1 0w
    7200 K"),
  ("Africa/Casablanca", "
    -1820 0 1913 10 26 0w
    0 M 1984 3 16 0w
    3600 0 1986 1 1 0w
    0 M 2018 10 28 10800w
    0 M"),
  ("Africa/Ceuta", "
    -1276 0 1901 1 1 0u
    0 0 1918 5 6 82800w
    0 3600 1918 10 7 82800w
    0 0 1924 1 1 0w
    0 s 1929 1 1 0w
    0 0 1967 1 1 0w
    0 Sp 1984 3 16 0w
    3600 0 1986 1 1 0w
    3600 E"),
  ("Africa/El_Aaiun", "
    -3168 0 1934 1 1 0w
    -3600 0 1976 4 14 0w
    0 M 2018 10 28 10800w
    0 M"),
  ("Africa/Johannesburg", "
    6720 0 1892 2 8 0w
    5400 0 1903 3 1 0w
    7200 SA"),
  ("Africa/Juba", "
    7588 0 1931 1 1 0w
    7200 SD 2000 1 15 43200w
    10800 0 2021 2 1 0w
    7200 0"),
  ("Africa/Khartoum", "
    7808 0 1931 1 1 0w
    7200 SD 2000 1 15 43200w
    10800 0 2017 11 1 0w
    7200 0"),
  ("Africa/Lagos", "
    815 0 1905 7 1 0w
    0 0 1908 7 1 0w
    815 0 1914 1 1 0w
    1800 0 1919 9 1 0w
    3600 0"),
  ("Africa/Maputo", "
    7818 0 1909 1 1 0w
    7200 0"),
  ("Africa/Monrovia", "
    -2588 0 1882 1 1 0w
    -2588 0 1919 3 1 0w
    -2670 0 1972 1 7 0w
    0 0"),
  ("Africa/Nairobi", "
    8836 0 1908 5 1 0w
    9000 0 1928 6 30 86400w
    10800 0 1930 1 4 86400w
    9000 0 1936 12 31 86400w
    9900 0 1942 7 31 86400w
    10800 0"),
  ("Africa/Ndjamena", "
    3612 0 1912 1 1 0w
    3600 0 1979 10 14 0w
    3600 3600 1980 3 8 0w
    3600 0"),
  ("Africa/Sao_Tome", "
    1616 0 1884 1 1 0w
    -2205 0 1912 1 1 0u
    0 0 2018 1 1 3600w
    3600 0 2019 1 1 7200w
    0 0"),
  ("Africa/Tripoli", "
    3164 0 1920 1 1 0w
    3600 L 1959 1 1 0w
    7200 0 1982 1 1 0w
    3600 L 1990 5 4 0w
    7200 0 1996 9 30 0w
    3600 L 1997 10 4 0w
    7200 0 2012 11 10 7200w
    3600 L 2013 10 25 7200w
    7200 0"),
  ("Africa/Tunis", "
    2444 0 1881 5 12 0w
    561 0 1911 3 11 0w
    3600 n"),
  ("Africa/Windhoek", "
    4104 0 1892 2 8 0w
    5400 0 1903 3 1 0w
    7200 0 1942 9 20 7200w
    7200 3600 1943 3 21 7200w
    7200 0 1990 3 21 0w
    7200 0 1994 3 21 0w
    3600 NA 2017 10 24 0w
    7200 0")]

end VisitBooking.Zone.Data
