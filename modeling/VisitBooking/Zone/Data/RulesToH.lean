/-!
# Rule sets with names before the letter I

Each entry has the name of a rule set and its rules, one a line: the first and the last year (`max`
for none), month, day and time of the change, and the saving in seconds from then on.
-/

namespace VisitBooking.Zone.Data

/-- The rules of these sets. -/
def rulesToH : List (String × String) := [
  ("A", "
    1930 1930 12 1 0w 3600
    1931 1931 4 1 0w 0
    1931 1931 10 15 0w 3600
    1932 1940 3 1 0w 0
    1932 1939 11 1 0w 3600
    1940 1940 7 1 0w 3600
    1941 1941 6 15 0w 0
    1941 1941 10 15 0w 3600
    1943 1943 8 1 0w 0
    1943 1943 10 15 0w 3600
    1946 1946 3 1 0w 0
    1946 1946 10 1 0w 3600
    1963 1963 10 1 0w 0
    1963 1963 12 15 0w 3600
    1964 1966 3 1 0w 0
    1964 1966 10 15 0w 3600
    1967 1967 4 2 0w 0
    1967 1968 10 0>=1 0w 3600
    1968 1969 4 0>=1 0w 0
    1974 1974 1 23 0w 3600
    1974 1974 5 1 0w 0
    1988 1988 12 1 0w 3600
    1989 1993 3 0>=1 0w 0
    1989 1992 10 0>=15 0w 3600
    1999 1999 10 0>=1 0w 3600
    2000 2000 3 3 0w 0
    2007 2007 12 30 0w 3600
    2008 2009 3 0>=15 0w 0
    2008 2008 10 0>=15 0w 3600"),
  ("AM", "
    2011 2011 3 last0 7200s 3600
    2011 2011 10 last0 7200s 0"),
  ("AN", "
    1971 1985 10 last0 7200s 3600
    1972 1972 2 27 7200s 0
    1973 1981 3 0>=1 7200s 0
    1982 1982 4 0>=1 7200s 0
    1983 1985 3 0>=1 7200s 0
    1986 1989 3 0>=15 7200s 0
    1986 1986 10 19 7200s 3600
    1987 1999 10 last0 7200s 3600
    1990 1995 3 0>=1 7200s 0
    1996 2005 3 last0 7200s 0
    2000 2000 8 last0 7200s 3600
    2001 2007 10 last0 7200s 3600
    2006 2006 4 0>=1 7200s 0
    2007 2007 3 last0 7200s 0
    2008 max 4 0>=1 7200s 0
    2008 max 10 0>=1 7200s 3600"),
  ("AQ", "
    1971 1971 10 last0 7200s 3600
    1972 1972 2 last0 7200s 0
    1989 1991 10 last0 7200s 3600
    1990 1992 3 0>=1 7200s 0"),
  ("AS", "
    1971 1985 10 last0 7200s 3600
    1986 1986 10 19 7200s 3600
    1987 2007 10 last0 7200s 3600
    1972 1972 2 27 7200s 0
    1973 1985 3 0>=1 7200s 0
    1986 1990 3 0>=15 7200s 0
    1991 1991 3 3 7200s 0
    1992 1992 3 22 7200s 0
    1993 1993 3 7 7200s 0
    1994 1994 3 20 7200s 0
    1995 2005 3 last0 7200s 0
    2006 2006 4 2 7200s 0
    2007 2007 3 last0 7200s 0
    2008 max 4 0>=1 7200s 0
    2008 max 10 0>=1 7200s 3600"),
  ("AT", "
    1916 1916 10 0>=1 7200s 3600
    1917 1917 3 last0 7200s 0
    1917 1918 10 0>=22 7200s 3600
    1918 1919 3 0>=1 7200s 0
    1967 1967 10 0>=1 7200s 3600
    1968 1968 3 0>=29 7200s 0
    1968 1985 10 last0 7200s 3600
    1969 1971 3 0>=8 7200s 0
    1972 1972 2 last0 7200s 0
    1973 1981 3 0>=1 7200s 0
    1982 1983 3 last0 7200s 0
    1984 1986 3 0>=1 7200s 0
    1986 1986 10 0>=15 7200s 3600
    1987 1990 3 0>=15 7200s 0
    1987 1987 10 0>=22 7200s 3600
    1988 1990 10 last0 7200s 3600
    1991 1999 10 0>=1 7200s 3600
    1991 2005 3 last0 7200s 0
    2000 2000 8 last0 7200s 3600
    2001 max 10 0>=1 7200s 3600
    2006 2006 4 0>=1 7200s 0
    2007 2007 3 last0 7200s 0
    2008 max 4 0>=1 7200s 0"),
  ("AU", "
    1917 1917 1 1 7200s 3600
    1917 1917 3 last0 7200s 0
    1942 1942 1 1 7200s 3600
    1942 1942 3 last0 7200s 0
    1942 1942 9 27 7200s 3600
    1943 1944 3 last0 7200s 0
    1943 1943 10 3 7200s 3600"),
  ("AV", "
    1971 1985 10 last0 7200s 3600
    1972 1972 2 last0 7200s 0
    1973 1985 3 0>=1 7200s 0
    1986 1990 3 0>=15 7200s 0
    1986 1987 10 0>=15 7200s 3600
    1988 1999 10 last0 7200s 3600
    1991 1994 3 0>=1 7200s 0
    1995 2005 3 last0 7200s 0
    2000 2000 8 last0 7200s 3600
    2001 2007 10 last0 7200s 3600
    2006 2006 4 0>=1 7200s 0
    2007 2007 3 last0 7200s 0
    2008 max 4 0>=1 7200s 0
    2008 max 10 0>=1 7200s 3600"),
  ("AW", "
    1974 1974 10 last0 7200s 3600
    1975 1975 3 0>=1 7200s 0
    1983 1983 10 last0 7200s 3600
    1984 1984 3 0>=1 7200s 0
    1991 1991 11 17 7200s 3600
    1992 1992 3 0>=1 7200s 0
    2006 2006 12 3 7200s 3600
    2007 2009 3 last0 7200s 0
    2007 2008 10 last0 7200s 3600"),
  ("AZ", "
    1997 2015 3 last0 14400w 3600
    1997 2015 10 last0 18000w 0"),
  ("B", "
    1931 1931 10 3 39600w 3600
    1932 1933 4 1 0w 0
    1932 1932 10 3 0w 3600
    1949 1952 12 1 0w 3600
    1950 1950 4 16 3600w 0
    1951 1952 4 1 0w 0
    1953 1953 3 1 0w 0
    1963 1963 12 9 0w 3600
    1964 1964 3 1 0w 0
    1965 1965 1 31 0w 3600
    1965 1965 3 31 0w 0
    1965 1965 12 1 0w 3600
    1966 1968 3 1 0w 0
    1966 1967 11 1 0w 3600
    1985 1985 11 2 0w 3600
    1986 1986 3 15 0w 0
    1986 1986 10 25 0w 3600
    1987 1987 2 14 0w 0
    1987 1987 10 25 0w 3600
    1988 1988 2 7 0w 0
    1988 1988 10 16 0w 3600
    1989 1989 1 29 0w 0
    1989 1989 10 15 0w 3600
    1990 1990 2 11 0w 0
    1990 1990 10 21 0w 3600
    1991 1991 2 17 0w 0
    1991 1991 10 20 0w 3600
    1992 1992 2 9 0w 0
    1992 1992 10 25 0w 3600
    1993 1993 1 31 0w 0
    1993 1995 10 0>=11 0w 3600
    1994 1995 2 0>=15 0w 0
    1996 1996 2 11 0w 0
    1996 1996 10 6 0w 3600
    1997 1997 2 16 0w 0
    1997 1997 10 6 0w 3600
    1998 1998 3 1 0w 0
    1998 1998 10 11 0w 3600
    1999 1999 2 21 0w 0
    1999 1999 10 3 0w 3600
    2000 2000 2 27 0w 0
    2000 2001 10 0>=8 0w 3600
    2001 2006 2 0>=15 0w 0
    2002 2002 11 3 0w 3600
    2003 2003 10 19 0w 3600
    2004 2004 11 2 0w 3600
    2005 2005 10 16 0w 3600
    2006 2006 11 5 0w 3600
    2007 2007 2 25 0w 0
    2007 2007 10 0>=8 0w 3600
    2008 2017 10 0>=15 0w 3600
    2008 2011 2 0>=15 0w 0
    2012 2012 2 0>=22 0w 0
    2013 2014 2 0>=15 0w 0
    2015 2015 2 0>=22 0w 0
    2016 2019 2 0>=15 0w 0
    2018 2018 11 0>=1 0w 3600"),
  ("BB", "
    1942 1942 4 19 18000u 3600
    1942 1942 8 31 21600u 0
    1943 1943 5 2 18000u 3600
    1943 1943 9 5 21600u 0
    1944 1944 4 10 18000u 1800
    1944 1944 9 10 21600u 0
    1977 1977 6 12 7200w 3600
    1977 1978 10 0>=1 7200w 0
    1978 1980 4 0>=15 7200w 3600
    1979 1979 9 30 7200w 0
    1980 1980 9 25 7200w 0"),
  ("BD", "
    2009 2009 6 19 82800w 3600
    2009 2009 12 31 86400w 0"),
  ("BG", "
    1979 1979 3 31 82800w 3600
    1979 1979 10 1 3600w 0
    1980 1982 4 6>=1 82800w 3600
    1980 1980 9 29 3600w 0
    1981 1981 9 27 7200w 0"),
  ("BZ", "
    1918 1941 10 6>=1 86400w 1800
    1919 1942 2 6>=8 86400w 0
    1942 1942 6 27 86400w 3600
    1945 1945 8 14 82800u 3600
    1945 1945 12 15 86400w 0
    1947 1967 10 6>=1 86400w 1800
    1948 1968 2 6>=8 86400w 0
    1973 1973 12 5 0w 3600
    1974 1974 2 9 0w 0
    1982 1982 12 18 0w 3600
    1983 1983 2 12 0w 0"),
  ("Be", "
    1917 1917 4 5 86400w 3600
    1917 1917 9 30 86400w 0
    1918 1918 4 13 86400w 3600
    1918 1918 9 15 86400w 0
    1942 1942 1 11 7200w 3600
    1942 1942 10 18 7200w 0
    1943 1943 3 21 7200w 3600
    1943 1943 10 31 7200w 0
    1944 1945 3 0>=8 7200w 3600
    1944 1945 11 0>=1 7200w 0
    1947 1947 5 0>=15 7200w 3600
    1947 1947 9 0>=8 7200w 0
    1948 1952 5 0>=22 7200w 3600
    1948 1952 9 0>=1 7200w 0
    1956 1956 5 0>=22 7200w 3600
    1956 1956 10 last0 7200w 0"),
  ("C", "
    1918 1918 4 14 7200w 3600
    1918 1918 10 27 7200w 0
    1942 1942 2 9 7200w 3600
    1945 1945 8 14 82800u 3600
    1945 1945 9 30 7200w 0
    1974 1986 4 last0 7200w 3600
    1974 2006 10 last0 7200w 0
    1987 2006 4 0>=1 7200w 3600
    2007 max 3 0>=8 7200w 3600
    2007 max 11 0>=1 7200w 0"),
  ("CA", "
    1948 1948 3 14 7260w 3600
    1949 1949 1 1 7200w 0
    1950 1966 4 last0 3600w 3600
    1950 1961 9 last0 7200w 0
    1962 1966 10 last0 7200w 0"),
  ("CH", "
    1941 1942 5 1>=1 3600w 3600
    1941 1942 10 1>=1 7200w 0"),
  ("CK", "
    1978 1978 11 12 0w 1800
    1979 1991 3 0>=1 0w 0
    1979 1990 10 last0 0w 1800"),
  ("CN", "
    1986 1986 5 4 7200w 3600
    1986 1991 9 0>=11 7200w 0
    1987 1991 4 0>=11 7200w 3600"),
  ("CO", "
    1992 1992 5 3 0w 3600
    1993 1993 2 6 86400w 0"),
  ("CR", "
    1979 1980 2 last0 0w 3600
    1979 1980 6 0>=1 0w 0
    1991 1992 1 6>=15 0w 3600
    1991 1991 7 1 0w 0
    1992 1992 3 15 0w 0"),
  ("CY", "
    1975 1975 4 13 0w 3600
    1975 1975 10 12 0w 0
    1976 1976 5 15 0w 3600
    1976 1976 10 11 0w 0
    1977 1980 4 0>=1 0w 3600
    1977 1977 9 25 0w 0
    1978 1978 10 2 0w 0
    1979 1997 9 last0 0w 0
    1981 1998 3 last0 0w 3600"),
  ("CZ", "
    1945 1945 4 1>=1 7200s 3600
    1945 1945 10 1 7200s 0
    1946 1946 5 6 7200s 3600
    1946 1949 10 0>=1 7200s 0
    1947 1948 4 0>=15 7200s 3600
    1949 1949 4 9 7200s 3600"),
  ("Ch", "
    1920 1920 6 13 7200w 3600
    1920 1921 10 last0 7200w 0
    1921 1921 3 last0 7200w 3600
    1922 1966 4 last0 7200w 3600
    1922 1954 9 last0 7200w 0
    1955 1966 10 last0 7200w 0"),
  ("DE", "
    1946 1946 4 14 7200s 3600
    1946 1946 10 7 7200s 0
    1947 1949 10 0>=1 7200s 0
    1947 1947 4 6 10800s 3600
    1947 1947 5 11 7200s 7200
    1947 1947 6 29 10800w 3600
    1948 1948 4 18 7200s 3600
    1949 1949 4 10 7200s 3600"),
  ("DO", "
    1966 1966 10 30 0w 3600
    1967 1967 2 28 0w 0
    1969 1973 10 last0 0w 1800
    1970 1970 2 21 0w 0
    1971 1971 1 20 0w 0
    1972 1974 1 21 0w 0"),
  ("De", "
    1920 1921 3 last0 7200w 3600
    1920 1920 10 last0 7200w 0
    1921 1921 5 22 7200w 0
    1965 1966 4 last0 7200w 3600
    1965 1966 10 last0 7200w 0"),
  ("Dt", "
    1948 1948 4 last0 7200w 3600
    1948 1948 9 last0 7200w 0"),
  ("E", "
    1977 1980 4 0>=1 3600u 3600
    1977 1977 9 last0 3600u 0
    1978 1978 10 1 3600u 0
    1979 1995 9 last0 3600u 0
    1981 max 3 last0 3600u 3600
    1996 max 10 last0 3600u 0"),
  ("EC", "
    1992 1992 11 28 0w 3600
    1993 1993 2 5 0w 0"),
  ("Ed", "
    1918 1919 4 0>=8 7200w 3600
    1918 1918 10 27 7200w 0
    1919 1919 5 27 7200w 0
    1920 1923 4 last0 7200w 3600
    1920 1920 10 last0 7200w 0
    1921 1923 9 last0 7200w 0
    1942 1942 2 9 7200w 3600
    1945 1945 8 14 82800u 3600
    1945 1945 9 last0 7200w 0
    1947 1947 4 last0 7200w 3600
    1947 1947 9 last0 7200w 0
    1972 1986 4 last0 7200w 3600
    1972 2006 10 last0 7200w 0"),
  ("F", "
    1916 1916 6 14 82800s 3600
    1916 1919 10 0>=1 82800s 0
    1917 1917 3 24 82800s 3600
    1918 1918 3 9 82800s 3600
    1919 1919 3 1 82800s 3600
    1920 1920 2 14 82800s 3600
    1920 1920 10 23 82800s 0
    1921 1921 3 14 82800s 3600
    1921 1921 10 25 82800s 0
    1922 1922 3 25 82800s 3600
    1922 1938 10 6>=1 82800s 0
    1923 1923 5 26 82800s 3600
    1924 1924 3 29 82800s 3600
    1925 1925 4 4 82800s 3600
    1926 1926 4 17 82800s 3600
    1927 1927 4 9 82800s 3600
    1928 1928 4 14 82800s 3600
    1929 1929 4 20 82800s 3600
    1930 1930 4 12 82800s 3600
    1931 1931 4 18 82800s 3600
    1932 1932 4 2 82800s 3600
    1933 1933 3 25 82800s 3600
    1934 1934 4 7 82800s 3600
    1935 1935 3 30 82800s 3600
    1936 1936 4 18 82800s 3600
    1937 1937 4 3 82800s 3600
    1938 1938 3 26 82800s 3600
    1939 1939 4 15 82800s 3600
    1939 1939 11 18 82800s 0
    1940 1940 2 25 7200w 3600
    1941 1941 5 5 0w 7200
    1941 1941 10 6 0w 3600
    1942 1942 3 9 0w 7200
    1942 1942 11 2 10800w 3600
    1943 1943 3 29 7200w 7200
    1943 1943 10 4 10800w 3600
    1944 1944 4 3 7200w 7200
    1944 1944 10 8 3600w 3600
    1945 1945 4 2 7200w 7200
    1945 1945 9 16 10800w 0
    1976 1976 3 28 3600w 3600
    1976 1976 9 26 3600w 0"),
  ("FI", "
    1942 1942 4 2 86400w 3600
    1942 1942 10 4 3600w 0
    1981 1982 3 last0 7200w 3600
    1981 1982 9 last0 10800w 0"),
  ("FJ", "
    1998 1999 11 0>=1 7200w 3600
    1999 2000 2 last0 10800w 0
    2009 2009 11 29 7200w 3600
    2010 2010 3 last0 10800w 0
    2010 2013 10 0>=21 7200w 3600
    2011 2011 3 0>=1 10800w 0
    2012 2013 1 0>=18 10800w 0
    2014 2014 1 0>=18 7200w 0
    2014 2018 11 0>=1 7200w 3600
    2015 2021 1 0>=12 10800w 0
    2019 2019 11 0>=8 7200w 3600
    2020 2020 12 20 7200w 3600"),
  ("FK", "
    1937 1938 9 last0 0w 3600
    1938 1942 3 0>=19 0w 0
    1939 1939 10 1 0w 3600
    1940 1942 9 last0 0w 3600
    1943 1943 1 1 0w 0
    1983 1983 9 last0 0w 3600
    1984 1985 4 last0 0w 0
    1984 1984 9 16 0w 3600
    1985 2000 9 0>=9 0w 3600
    1986 2000 4 0>=16 0w 0
    2001 2010 4 0>=15 7200w 0
    2001 2010 9 0>=1 7200w 3600"),
  ("G", "
    1916 1916 5 21 7200s 3600
    1916 1916 10 1 7200s 0
    1917 1917 4 8 7200s 3600
    1917 1917 9 17 7200s 0
    1918 1918 3 24 7200s 3600
    1918 1918 9 30 7200s 0
    1919 1919 3 30 7200s 3600
    1919 1919 9 29 7200s 0
    1920 1920 3 28 7200s 3600
    1920 1920 10 25 7200s 0
    1921 1921 4 3 7200s 3600
    1921 1921 10 3 7200s 0
    1922 1922 3 26 7200s 3600
    1922 1922 10 8 7200s 0
    1923 1923 4 0>=16 7200s 3600
    1923 1924 9 0>=16 7200s 0
    1924 1924 4 0>=9 7200s 3600
    1925 1926 4 0>=16 7200s 3600
    1925 1938 10 0>=2 7200s 0
    1927 1927 4 0>=9 7200s 3600
    1928 1929 4 0>=16 7200s 3600
    1930 1930 4 0>=9 7200s 3600
    1931 1932 4 0>=16 7200s 3600
    1933 1933 4 0>=9 7200s 3600
    1934 1934 4 0>=16 7200s 3600
    1935 1935 4 0>=9 7200s 3600
    1936 1937 4 0>=16 7200s 3600
    1938 1938 4 0>=9 7200s 3600
    1939 1939 4 0>=16 7200s 3600
    1939 1939 11 0>=16 7200s 0
    1940 1940 2 0>=23 7200s 3600
    1941 1941 5 0>=2 3600s 7200
    1941 1943 8 0>=9 3600s 3600
    1942 1944 4 0>=2 3600s 7200
    1944 1944 9 0>=16 3600s 3600
    1945 1945 4 1>=2 3600s 7200
    1945 1945 7 0>=9 3600s 3600
    1945 1946 10 0>=2 7200s 0
    1946 1946 4 0>=9 7200s 3600
    1947 1947 3 16 7200s 3600
    1947 1947 4 13 3600s 7200
    1947 1947 8 10 3600s 3600
    1947 1947 11 2 7200s 0
    1948 1948 3 14 7200s 3600
    1948 1948 10 31 7200s 0
    1949 1949 4 3 7200s 3600
    1949 1949 10 30 7200s 0
    1950 1952 4 0>=14 7200s 3600
    1950 1952 10 0>=21 7200s 0
    1953 1953 4 0>=16 7200s 3600
    1953 1960 10 0>=2 7200s 0
    1954 1954 4 0>=9 7200s 3600
    1955 1956 4 0>=16 7200s 3600
    1957 1957 4 0>=9 7200s 3600
    1958 1959 4 0>=16 7200s 3600
    1960 1960 4 0>=9 7200s 3600
    1961 1963 3 last0 7200s 3600
    1961 1968 10 0>=23 7200s 0
    1964 1967 3 0>=19 7200s 3600
    1968 1968 2 18 7200s 3600
    1972 1980 3 0>=16 7200s 3600
    1972 1980 10 0>=23 7200s 0
    1981 1995 3 last0 3600u 3600
    1981 1989 10 0>=23 3600u 0
    1990 1995 10 0>=22 3600u 0"),
  ("GT", "
    1973 1973 11 25 0w 3600
    1974 1974 2 24 0w 0
    1983 1983 5 21 0w 3600
    1983 1983 9 22 0w 0
    1991 1991 3 23 0w 3600
    1991 1991 9 7 0w 0
    2006 2006 4 30 0w 3600
    2006 2006 10 1 0w 0"),
  ("Gu", "
    1959 1959 6 27 7200w 3600
    1961 1961 1 29 7200w 0
    1967 1967 9 1 7200w 3600
    1969 1969 1 26 60w 0
    1969 1969 6 22 7200w 3600
    1969 1969 8 31 7200w 0
    1970 1971 4 last0 7200w 3600
    1970 1971 9 0>=1 7200w 0
    1973 1973 12 16 7200w 3600
    1974 1974 2 24 7200w 0
    1976 1976 5 26 7200w 3600
    1976 1976 8 22 7260w 0
    1977 1977 4 24 7200w 3600
    1977 1977 8 28 7200w 0"),
  ("H", "
    1916 1916 4 1 0w 3600
    1916 1916 10 1 0w 0
    1920 1920 5 9 0w 3600
    1920 1920 8 29 0w 0
    1921 1921 5 6 0w 3600
    1921 1922 9 5 0w 0
    1922 1922 4 30 0w 3600
    1923 1925 5 0>=1 0w 3600
    1923 1923 9 4 0w 0
    1924 1924 9 15 0w 0
    1925 1925 9 28 0w 0
    1926 1926 5 16 0w 3600
    1926 1926 9 13 0w 0
    1927 1927 5 1 0w 3600
    1927 1927 9 26 0w 0
    1928 1931 5 0>=8 0w 3600
    1928 1928 9 9 0w 0
    1929 1929 9 3 0w 0
    1930 1930 9 15 0w 0
    1931 1932 9 1>=24 0w 0
    1932 1932 5 1 0w 3600
    1933 1933 4 30 0w 3600
    1933 1933 10 2 0w 0
    1934 1934 5 20 0w 3600
    1934 1934 9 16 0w 0
    1935 1935 6 2 0w 3600
    1935 1935 9 30 0w 0
    1936 1936 6 1 0w 3600
    1936 1936 9 14 0w 0
    1937 1938 5 0>=1 0w 3600
    1937 1941 9 1>=24 0w 0
    1939 1939 5 28 0w 3600
    1940 1941 5 0>=1 0w 3600
    1946 1949 4 last0 7200w 3600
    1946 1949 9 last0 7200w 0
    1951 1954 4 last0 7200w 3600
    1951 1954 9 last0 7200w 0
    1956 1959 4 last0 7200w 3600
    1956 1959 9 last0 7200w 0
    1962 1973 4 last0 7200w 3600
    1962 1973 10 last0 7200w 0"),
  ("HK", "
    1946 1946 4 21 0w 3600
    1946 1946 12 1 12600s 0
    1947 1947 4 13 12600s 3600
    1947 1947 11 30 12600s 0
    1948 1948 5 2 12600s 3600
    1948 1952 10 0>=28 12600s 0
    1949 1953 4 0>=1 12600w 3600
    1953 1964 10 0>=31 12600w 0
    1954 1964 3 0>=18 12600w 3600
    1965 1976 4 0>=16 12600w 3600
    1965 1976 10 0>=16 12600w 0
    1973 1973 12 30 12600w 3600
    1979 1979 5 13 12600w 3600
    1979 1979 10 21 12600w 0"),
  ("HN", "
    1987 1988 5 0>=1 0w 3600
    1987 1988 9 last0 0w 0
    2006 2006 5 0>=1 0w 3600
    2006 2006 8 1>=1 0w 0"),
  ("HT", "
    1983 1983 5 8 0w 3600
    1984 1987 4 last0 0w 3600
    1983 1987 10 last0 0w 0
    1988 1997 4 0>=1 3600s 3600
    1988 1997 10 last0 3600s 0
    2005 2006 4 0>=1 0w 3600
    2005 2006 10 last0 0w 0
    2012 2015 3 0>=8 7200w 3600
    2012 2015 11 0>=1 7200w 0
    2017 max 3 0>=8 7200w 3600
    2017 max 11 0>=1 7200w 0"),
  ("Ho", "
    1992 1993 10 last0 7200s 3600
    1993 1994 3 0>=1 7200s 0"),
  ("a", "
    1920 1920 4 5 7200s 3600
    1920 1920 9 13 7200s 0
    1946 1946 4 14 7200s 3600
    1946 1946 10 7 7200s 0
    1947 1948 10 0>=1 7200s 0
    1947 1947 4 6 7200s 3600
    1948 1948 4 18 7200s 3600
    1980 1980 4 6 0w 3600
    1980 1980 9 28 0w 0"),
  ("b", "
    1918 1918 3 9 0s 3600
    1918 1919 10 6>=1 82800s 0
    1919 1919 3 1 82800s 3600
    1920 1920 2 14 82800s 3600
    1920 1920 10 23 82800s 0
    1921 1921 3 14 82800s 3600
    1921 1921 10 25 82800s 0
    1922 1922 3 25 82800s 3600
    1922 1927 10 6>=1 82800s 0
    1923 1923 4 21 82800s 3600
    1924 1924 3 29 82800s 3600
    1925 1925 4 4 82800s 3600
    1926 1926 4 17 82800s 3600
    1927 1927 4 9 82800s 3600
    1928 1928 4 14 82800s 3600
    1928 1938 10 0>=2 7200s 0
    1929 1929 4 21 7200s 3600
    1930 1930 4 13 7200s 3600
    1931 1931 4 19 7200s 3600
    1932 1932 4 3 7200s 3600
    1933 1933 3 26 7200s 3600
    1934 1934 4 8 7200s 3600
    1935 1935 3 31 7200s 3600
    1936 1936 4 19 7200s 3600
    1937 1937 4 4 7200s 3600
    1938 1938 3 27 7200s 3600
    1939 1939 4 16 7200s 3600
    1939 1939 11 19 7200s 0
    1940 1940 2 25 7200s 3600
    1944 1944 9 17 7200s 0
    1945 1945 4 2 7200s 3600
    1945 1945 9 16 7200s 0
    1946 1946 5 19 7200s 3600
    1946 1946 10 7 7200s 0"),
  ("c", "
    1916 1916 4 30 82800w 3600
    1916 1916 10 1 3600w 0
    1917 1918 4 1>=15 7200s 3600
    1917 1918 9 1>=15 7200s 0
    1940 1940 4 1 7200s 3600
    1942 1942 11 2 7200s 0
    1943 1943 3 29 7200s 3600
    1943 1943 10 4 7200s 0
    1944 1945 4 1>=1 7200s 3600
    1944 1944 10 2 7200s 0
    1945 1945 9 16 7200s 0
    1977 1980 4 0>=1 7200s 3600
    1977 1977 9 last0 7200s 0
    1978 1978 10 1 7200s 0
    1979 1995 9 last0 7200s 0
    1981 max 3 last0 7200s 3600
    1996 max 10 last0 7200s 0"),
  ("d", "
    1916 1916 6 14 82800s 3600
    1916 1919 10 0>=1 82800s 0
    1917 1917 3 24 82800s 3600
    1918 1918 3 9 82800s 3600
    1919 1919 3 1 82800s 3600
    1920 1920 2 14 82800s 3600
    1920 1920 10 23 82800s 0
    1921 1921 3 14 82800s 3600
    1921 1921 6 21 82800s 0
    1939 1939 9 11 82800s 3600
    1939 1939 11 19 3600w 0
    1944 1945 4 1>=1 7200w 3600
    1944 1944 10 8 7200w 0
    1945 1945 9 16 3600w 0
    1971 1971 4 25 82800s 3600
    1971 1971 9 26 82800s 0
    1977 1977 5 6 0w 3600
    1977 1977 10 21 0w 0
    1978 1978 3 24 3600w 3600
    1978 1978 9 22 10800w 0
    1980 1980 4 25 0w 3600
    1980 1980 10 31 7200w 0"),
  ("e", "
    1977 1980 4 0>=1 0w 3600
    1977 1977 9 last0 0w 0
    1978 1978 10 1 0w 0
    1979 1995 9 last0 0w 0
    1981 max 3 last0 0w 3600
    1996 max 10 last0 0w 0"),
  ("f", "
    1946 1946 5 15 0w 3600
    1946 1946 10 1 0w 0
    1947 1947 4 15 0w 3600
    1947 1947 11 1 0w 0
    1948 1951 5 1 0w 3600
    1948 1951 10 1 0w 0
    1952 1952 3 1 0w 3600
    1952 1954 11 1 0w 0
    1953 1959 4 1 0w 3600
    1955 1961 10 1 0w 0
    1960 1961 6 1 0w 3600
    1974 1975 4 1 0w 3600
    1974 1975 10 1 0w 0
    1979 1979 7 1 0w 3600
    1979 1979 10 1 0w 0"),
  ("g", "
    1932 1932 7 7 0w 3600
    1932 1932 9 1 0w 0
    1941 1941 4 7 0w 3600
    1942 1942 11 2 10800w 0
    1943 1943 3 30 0w 3600
    1943 1943 10 4 0w 0
    1952 1952 7 1 0w 3600
    1952 1952 11 2 0w 0
    1975 1975 4 12 0s 3600
    1975 1975 11 26 0s 0
    1976 1976 4 11 7200s 3600
    1976 1976 10 10 7200s 0
    1977 1978 4 0>=1 7200s 3600
    1977 1977 9 26 7200s 0
    1978 1978 9 24 14400w 0
    1979 1979 4 1 32400w 3600
    1979 1979 9 29 7200w 0
    1980 1980 4 1 0w 3600
    1980 1980 9 28 0w 0"),
  ("h", "
    1918 1919 4 15 7200w 3600
    1918 1920 9 1>=15 10800w 0
    1920 1920 4 5 7200w 3600
    1945 1945 5 1 82800w 3600
    1945 1945 11 1 3600w 0
    1946 1946 3 31 7200s 3600
    1946 1946 10 7 7200w 0
    1947 1949 4 0>=4 7200s 3600
    1947 1949 10 0>=1 7200s 0
    1954 1954 5 23 0w 3600
    1954 1954 10 3 0w 0
    1955 1955 5 22 7200w 3600
    1955 1955 10 2 10800w 0
    1956 1957 6 0>=1 7200w 3600
    1956 1957 9 last0 10800w 0
    1980 1980 4 6 0w 3600
    1980 1980 9 28 3600w 0
    1981 1983 3 last0 0w 3600
    1981 1983 9 last0 3600w 0")]

end VisitBooking.Zone.Data
