import BucketPlan.Zone.Table

/-!
Records of the time zone database, release 2025b, up to the year 2099.
-/

namespace BucketPlan.ZoneRecord

/-- Africa/Monrovia. -/
def monrovia : ZoneRecord where
  base := west 0 43 8
  lines := [
    .dated ⟨1919, 3, 1⟩ (clock 0 43 8) (west 0 44 30),
    .dated ⟨1972, 1, 7⟩ (clock 0 44 30) (east 0 0 0)]

/-- Africa/Cairo. -/
def cairo : ZoneRecord where
  base := east 2 5 9
  lines := [
    .dated ⟨1900, 9, 30⟩ (clock 21 54 51) (east 2 0 0),
    .dated ⟨1940, 7, 14⟩ (clock 22 0 0) (east 3 0 0),
    .dated ⟨1940, 9, 30⟩ (clock 21 0 0) (east 2 0 0),
    .dated ⟨1941, 4, 14⟩ (clock 22 0 0) (east 3 0 0),
    .dated ⟨1941, 9, 15⟩ (clock 21 0 0) (east 2 0 0),
    .dated ⟨1942, 3, 31⟩ (clock 22 0 0) (east 3 0 0),
    .dated ⟨1942, 10, 26⟩ (clock 21 0 0) (east 2 0 0),
    .dated ⟨1943, 3, 31⟩ (clock 22 0 0) (east 3 0 0),
    .dated ⟨1943, 10, 31⟩ (clock 21 0 0) (east 2 0 0),
    .dated ⟨1944, 3, 31⟩ (clock 22 0 0) (east 3 0 0),
    .dated ⟨1944, 10, 31⟩ (clock 21 0 0) (east 2 0 0),
    .dated ⟨1945, 4, 15⟩ (clock 22 0 0) (east 3 0 0),
    .dated ⟨1945, 10, 31⟩ (clock 21 0 0) (east 2 0 0),
    .dated ⟨1957, 5, 9⟩ (clock 22 0 0) (east 3 0 0),
    .dated ⟨1957, 9, 30⟩ (clock 21 0 0) (east 2 0 0),
    .dated ⟨1958, 4, 30⟩ (clock 22 0 0) (east 3 0 0),
    .dated ⟨1958, 9, 30⟩ (clock 21 0 0) (east 2 0 0),
    .dated ⟨1959, 4, 30⟩ (clock 23 0 0) (east 3 0 0),
    .dated ⟨1959, 9, 30⟩ (clock 0 0 0) (east 2 0 0),
    .dated ⟨1960, 4, 30⟩ (clock 23 0 0) (east 3 0 0),
    .dated ⟨1960, 9, 30⟩ (clock 0 0 0) (east 2 0 0),
    .dated ⟨1961, 4, 30⟩ (clock 23 0 0) (east 3 0 0),
    .dated ⟨1961, 9, 30⟩ (clock 0 0 0) (east 2 0 0),
    .dated ⟨1962, 4, 30⟩ (clock 23 0 0) (east 3 0 0),
    .dated ⟨1962, 9, 30⟩ (clock 0 0 0) (east 2 0 0),
    .dated ⟨1963, 4, 30⟩ (clock 23 0 0) (east 3 0 0),
    .dated ⟨1963, 9, 30⟩ (clock 0 0 0) (east 2 0 0),
    .dated ⟨1964, 4, 30⟩ (clock 23 0 0) (east 3 0 0),
    .dated ⟨1964, 9, 30⟩ (clock 0 0 0) (east 2 0 0),
    .dated ⟨1965, 4, 30⟩ (clock 23 0 0) (east 3 0 0),
    .dated ⟨1965, 9, 30⟩ (clock 0 0 0) (east 2 0 0),
    .dated ⟨1966, 4, 30⟩ (clock 23 0 0) (east 3 0 0),
    .dated ⟨1966, 10, 1⟩ (clock 0 0 0) (east 2 0 0),
    .dated ⟨1967, 4, 30⟩ (clock 23 0 0) (east 3 0 0),
    .dated ⟨1967, 10, 1⟩ (clock 0 0 0) (east 2 0 0),
    .dated ⟨1968, 4, 30⟩ (clock 23 0 0) (east 3 0 0),
    .dated ⟨1968, 10, 1⟩ (clock 0 0 0) (east 2 0 0),
    .dated ⟨1969, 4, 30⟩ (clock 23 0 0) (east 3 0 0),
    .dated ⟨1969, 10, 1⟩ (clock 0 0 0) (east 2 0 0),
    .dated ⟨1970, 4, 30⟩ (clock 23 0 0) (east 3 0 0),
    .dated ⟨1970, 10, 1⟩ (clock 0 0 0) (east 2 0 0),
    .dated ⟨1971, 4, 30⟩ (clock 23 0 0) (east 3 0 0),
    .dated ⟨1971, 10, 1⟩ (clock 0 0 0) (east 2 0 0),
    .dated ⟨1972, 4, 30⟩ (clock 23 0 0) (east 3 0 0),
    .dated ⟨1972, 10, 1⟩ (clock 0 0 0) (east 2 0 0),
    .dated ⟨1973, 4, 30⟩ (clock 23 0 0) (east 3 0 0),
    .dated ⟨1973, 10, 1⟩ (clock 0 0 0) (east 2 0 0),
    .dated ⟨1974, 4, 30⟩ (clock 23 0 0) (east 3 0 0),
    .dated ⟨1974, 10, 1⟩ (clock 0 0 0) (east 2 0 0),
    .dated ⟨1975, 4, 30⟩ (clock 23 0 0) (east 3 0 0),
    .dated ⟨1975, 10, 1⟩ (clock 0 0 0) (east 2 0 0),
    .dated ⟨1976, 4, 30⟩ (clock 23 0 0) (east 3 0 0),
    .dated ⟨1976, 10, 1⟩ (clock 0 0 0) (east 2 0 0),
    .dated ⟨1977, 4, 30⟩ (clock 23 0 0) (east 3 0 0),
    .dated ⟨1977, 10, 1⟩ (clock 0 0 0) (east 2 0 0),
    .dated ⟨1978, 4, 30⟩ (clock 23 0 0) (east 3 0 0),
    .dated ⟨1978, 10, 1⟩ (clock 0 0 0) (east 2 0 0),
    .dated ⟨1979, 4, 30⟩ (clock 23 0 0) (east 3 0 0),
    .dated ⟨1979, 10, 1⟩ (clock 0 0 0) (east 2 0 0),
    .dated ⟨1980, 4, 30⟩ (clock 23 0 0) (east 3 0 0),
    .dated ⟨1980, 10, 1⟩ (clock 0 0 0) (east 2 0 0),
    .dated ⟨1981, 4, 30⟩ (clock 23 0 0) (east 3 0 0),
    .dated ⟨1981, 10, 1⟩ (clock 0 0 0) (east 2 0 0),
    .dated ⟨1982, 7, 24⟩ (clock 23 0 0) (east 3 0 0),
    .dated ⟨1982, 10, 1⟩ (clock 0 0 0) (east 2 0 0),
    .dated ⟨1983, 7, 11⟩ (clock 23 0 0) (east 3 0 0),
    .dated ⟨1983, 10, 1⟩ (clock 0 0 0) (east 2 0 0),
    .dated ⟨1984, 4, 30⟩ (clock 23 0 0) (east 3 0 0),
    .dated ⟨1984, 10, 1⟩ (clock 0 0 0) (east 2 0 0),
    .dated ⟨1985, 4, 30⟩ (clock 23 0 0) (east 3 0 0),
    .dated ⟨1985, 10, 1⟩ (clock 0 0 0) (east 2 0 0),
    .dated ⟨1986, 4, 30⟩ (clock 23 0 0) (east 3 0 0),
    .dated ⟨1986, 10, 1⟩ (clock 0 0 0) (east 2 0 0),
    .dated ⟨1987, 4, 30⟩ (clock 23 0 0) (east 3 0 0),
    .dated ⟨1987, 10, 1⟩ (clock 0 0 0) (east 2 0 0),
    .dated ⟨1988, 4, 30⟩ (clock 23 0 0) (east 3 0 0),
    .dated ⟨1988, 10, 1⟩ (clock 0 0 0) (east 2 0 0),
    .dated ⟨1989, 5, 5⟩ (clock 23 0 0) (east 3 0 0),
    .dated ⟨1989, 10, 1⟩ (clock 0 0 0) (east 2 0 0),
    .dated ⟨1990, 4, 30⟩ (clock 23 0 0) (east 3 0 0),
    .dated ⟨1990, 10, 1⟩ (clock 0 0 0) (east 2 0 0),
    .dated ⟨1991, 4, 30⟩ (clock 23 0 0) (east 3 0 0),
    .dated ⟨1991, 10, 1⟩ (clock 0 0 0) (east 2 0 0),
    .dated ⟨1992, 4, 30⟩ (clock 23 0 0) (east 3 0 0),
    .dated ⟨1992, 10, 1⟩ (clock 0 0 0) (east 2 0 0),
    .dated ⟨1993, 4, 30⟩ (clock 23 0 0) (east 3 0 0),
    .dated ⟨1993, 10, 1⟩ (clock 0 0 0) (east 2 0 0),
    .dated ⟨1994, 4, 30⟩ (clock 23 0 0) (east 3 0 0),
    .dated ⟨1994, 10, 1⟩ (clock 0 0 0) (east 2 0 0),
    .yearly 1995 1998 [⟨4, .last .friday, clock 0 0 0, east 2 0 0, east 3 0 0⟩,
      ⟨9, .last .friday, clock 0 0 0, east 3 0 0, east 2 0 0⟩],
    .dated ⟨1999, 4, 29⟩ (clock 22 0 0) (east 3 0 0),
    .dated ⟨1999, 9, 30⟩ (clock 21 0 0) (east 2 0 0),
    .yearly 2000 2003 [⟨4, .last .friday, clock 0 0 0, east 2 0 0, east 3 0 0⟩,
      ⟨9, .last .friday, clock 0 0 0, east 3 0 0, east 2 0 0⟩],
    .dated ⟨2004, 4, 29⟩ (clock 22 0 0) (east 3 0 0),
    .dated ⟨2004, 9, 30⟩ (clock 21 0 0) (east 2 0 0),
    .dated ⟨2005, 4, 28⟩ (clock 22 0 0) (east 3 0 0),
    .dated ⟨2005, 9, 29⟩ (clock 21 0 0) (east 2 0 0),
    .dated ⟨2006, 4, 27⟩ (clock 22 0 0) (east 3 0 0),
    .dated ⟨2006, 9, 21⟩ (clock 21 0 0) (east 2 0 0),
    .dated ⟨2007, 4, 26⟩ (clock 22 0 0) (east 3 0 0),
    .dated ⟨2007, 9, 6⟩ (clock 21 0 0) (east 2 0 0),
    .dated ⟨2008, 4, 24⟩ (clock 22 0 0) (east 3 0 0),
    .dated ⟨2008, 8, 28⟩ (clock 21 0 0) (east 2 0 0),
    .dated ⟨2009, 4, 23⟩ (clock 22 0 0) (east 3 0 0),
    .dated ⟨2009, 8, 20⟩ (clock 21 0 0) (east 2 0 0),
    .dated ⟨2010, 4, 29⟩ (clock 22 0 0) (east 3 0 0),
    .dated ⟨2010, 8, 10⟩ (clock 21 0 0) (east 2 0 0),
    .dated ⟨2010, 9, 9⟩ (clock 22 0 0) (east 3 0 0),
    .dated ⟨2010, 9, 30⟩ (clock 21 0 0) (east 2 0 0),
    .dated ⟨2014, 5, 15⟩ (clock 22 0 0) (east 3 0 0),
    .dated ⟨2014, 6, 26⟩ (clock 21 0 0) (east 2 0 0),
    .dated ⟨2014, 7, 31⟩ (clock 22 0 0) (east 3 0 0),
    .dated ⟨2014, 9, 25⟩ (clock 21 0 0) (east 2 0 0),
    .dated ⟨2023, 4, 27⟩ (clock 22 0 0) (east 3 0 0),
    .dated ⟨2023, 10, 26⟩ (clock 21 0 0) (east 2 0 0),
    .dated ⟨2024, 4, 25⟩ (clock 22 0 0) (east 3 0 0),
    .dated ⟨2024, 10, 31⟩ (clock 21 0 0) (east 2 0 0),
    .yearly 2025 2029 [⟨4, .last .friday, clock 0 0 0, east 2 0 0, east 3 0 0⟩,
      ⟨10, .last .friday, clock 0 0 0, east 3 0 0, east 2 0 0⟩],
    .dated ⟨2030, 4, 25⟩ (clock 22 0 0) (east 3 0 0),
    .dated ⟨2030, 10, 31⟩ (clock 21 0 0) (east 2 0 0),
    .yearly 2031 2040 [⟨4, .last .friday, clock 0 0 0, east 2 0 0, east 3 0 0⟩,
      ⟨10, .last .friday, clock 0 0 0, east 3 0 0, east 2 0 0⟩],
    .dated ⟨2041, 4, 25⟩ (clock 22 0 0) (east 3 0 0),
    .dated ⟨2041, 10, 31⟩ (clock 21 0 0) (east 2 0 0),
    .yearly 2042 2046 [⟨4, .last .friday, clock 0 0 0, east 2 0 0, east 3 0 0⟩,
      ⟨10, .last .friday, clock 0 0 0, east 3 0 0, east 2 0 0⟩],
    .dated ⟨2047, 4, 25⟩ (clock 22 0 0) (east 3 0 0),
    .dated ⟨2047, 10, 31⟩ (clock 21 0 0) (east 2 0 0),
    .yearly 2048 2051 [⟨4, .last .friday, clock 0 0 0, east 2 0 0, east 3 0 0⟩,
      ⟨10, .last .friday, clock 0 0 0, east 3 0 0, east 2 0 0⟩],
    .dated ⟨2052, 4, 25⟩ (clock 22 0 0) (east 3 0 0),
    .dated ⟨2052, 10, 31⟩ (clock 21 0 0) (east 2 0 0),
    .yearly 2053 2057 [⟨4, .last .friday, clock 0 0 0, east 2 0 0, east 3 0 0⟩,
      ⟨10, .last .friday, clock 0 0 0, east 3 0 0, east 2 0 0⟩],
    .dated ⟨2058, 4, 25⟩ (clock 22 0 0) (east 3 0 0),
    .dated ⟨2058, 10, 31⟩ (clock 21 0 0) (east 2 0 0),
    .yearly 2059 2068 [⟨4, .last .friday, clock 0 0 0, east 2 0 0, east 3 0 0⟩,
      ⟨10, .last .friday, clock 0 0 0, east 3 0 0, east 2 0 0⟩],
    .dated ⟨2069, 4, 25⟩ (clock 22 0 0) (east 3 0 0),
    .dated ⟨2069, 10, 31⟩ (clock 21 0 0) (east 2 0 0),
    .yearly 2070 2074 [⟨4, .last .friday, clock 0 0 0, east 2 0 0, east 3 0 0⟩,
      ⟨10, .last .friday, clock 0 0 0, east 3 0 0, east 2 0 0⟩],
    .dated ⟨2075, 4, 25⟩ (clock 22 0 0) (east 3 0 0),
    .dated ⟨2075, 10, 31⟩ (clock 21 0 0) (east 2 0 0),
    .yearly 2076 2079 [⟨4, .last .friday, clock 0 0 0, east 2 0 0, east 3 0 0⟩,
      ⟨10, .last .friday, clock 0 0 0, east 3 0 0, east 2 0 0⟩],
    .dated ⟨2080, 4, 25⟩ (clock 22 0 0) (east 3 0 0),
    .dated ⟨2080, 10, 31⟩ (clock 21 0 0) (east 2 0 0),
    .yearly 2081 2085 [⟨4, .last .friday, clock 0 0 0, east 2 0 0, east 3 0 0⟩,
      ⟨10, .last .friday, clock 0 0 0, east 3 0 0, east 2 0 0⟩],
    .dated ⟨2086, 4, 25⟩ (clock 22 0 0) (east 3 0 0),
    .dated ⟨2086, 10, 31⟩ (clock 21 0 0) (east 2 0 0),
    .yearly 2087 2096 [⟨4, .last .friday, clock 0 0 0, east 2 0 0, east 3 0 0⟩,
      ⟨10, .last .friday, clock 0 0 0, east 3 0 0, east 2 0 0⟩],
    .dated ⟨2097, 4, 25⟩ (clock 22 0 0) (east 3 0 0),
    .dated ⟨2097, 10, 31⟩ (clock 21 0 0) (east 2 0 0),
    .dated ⟨2098, 4, 24⟩ (clock 22 0 0) (east 3 0 0),
    .dated ⟨2098, 10, 30⟩ (clock 21 0 0) (east 2 0 0),
    .dated ⟨2099, 4, 23⟩ (clock 22 0 0) (east 3 0 0),
    .dated ⟨2099, 10, 29⟩ (clock 21 0 0) (east 2 0 0)]

end BucketPlan.ZoneRecord
