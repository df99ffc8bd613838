import BucketPlan.Zone.Table

/-!
Records of the time zone database, release 2025b, up to the year 2099.
-/

namespace BucketPlan.ZoneRecord

/-- Australia/Lord_Howe. -/
def lordHowe : ZoneRecord where
  base := east 10 36 20
  lines := [
    .dated ⟨1895, 1, 31⟩ (clock 13 23 40) (east 10 0 0),
    .dated ⟨1981, 2, 28⟩ (clock 14 0 0) (east 10 30 0),
    .dated ⟨1981, 10, 24⟩ (clock 15 30 0) (east 11 30 0),
    .yearly 1982 1984 [⟨3, .onOrAfter .sunday 1, clock 2 0 0, east 11 30 0, east 10 30 0⟩,
      ⟨10, .last .sunday, clock 2 0 0, east 10 30 0, east 11 30 0⟩],
    .dated ⟨1985, 3, 2⟩ (clock 14 30 0) (east 10 30 0),
    .dated ⟨1985, 10, 26⟩ (clock 15 30 0) (east 11 0 0),
    .dated ⟨1986, 3, 15⟩ (clock 15 0 0) (east 10 30 0),
    .dated ⟨1986, 10, 18⟩ (clock 15 30 0) (east 11 0 0),
    .yearly 1987 1989 [⟨3, .onOrAfter .sunday 14, clock 2 0 0, east 11 0 0, east 10 30 0⟩,
      ⟨10, .last .sunday, clock 2 0 0, east 10 30 0, east 11 0 0⟩],
    .yearly 1990 1995 [⟨3, .onOrAfter .sunday 1, clock 2 0 0, east 11 0 0, east 10 30 0⟩,
      ⟨10, .last .sunday, clock 2 0 0, east 10 30 0, east 11 0 0⟩],
    .yearly 1996 1999 [⟨3, .last .sunday, clock 2 0 0, east 11 0 0, east 10 30 0⟩,
      ⟨10, .last .sunday, clock 2 0 0, east 10 30 0, east 11 0 0⟩],
    .dated ⟨2000, 3, 25⟩ (clock 15 0 0) (east 10 30 0),
    .dated ⟨2000, 8, 26⟩ (clock 15 30 0) (east 11 0 0),
    .yearly 2001 2005 [⟨3, .last .sunday, clock 2 0 0, east 11 0 0, east 10 30 0⟩,
      ⟨10, .last .sunday, clock 2 0 0, east 10 30 0, east 11 0 0⟩],
    .dated ⟨2006, 4, 1⟩ (clock 15 0 0) (east 10 30 0),
    .dated ⟨2006, 10, 28⟩ (clock 15 30 0) (east 11 0 0),
    .dated ⟨2007, 3, 24⟩ (clock 15 0 0) (east 10 30 0),
    .dated ⟨2007, 10, 27⟩ (clock 15 30 0) (east 11 0 0),
    .yearly 2008 2099 [⟨4, .onOrAfter .sunday 1, clock 2 0 0, east 11 0 0, east 10 30 0⟩,
      ⟨10, .onOrAfter .sunday 1, clock 2 0 0, east 10 30 0, east 11 0 0⟩]]

/-- Pacific/Apia. -/
def apia : ZoneRecord where
  base := east 12 33 4
  lines := [
    .dated ⟨1892, 7, 4⟩ (clock 11 26 56) (west 11 26 56),
    .dated ⟨1911, 1, 1⟩ (clock 11 26 56) (west 11 30 0),
    .dated ⟨1950, 1, 1⟩ (clock 11 30 0) (west 11 0 0),
    .dated ⟨2010, 9, 26⟩ (clock 11 0 0) (west 10 0 0),
    .dated ⟨2011, 4, 2⟩ (clock 14 0 0) (west 11 0 0),
    .dated ⟨2011, 9, 24⟩ (clock 14 0 0) (west 10 0 0),
    .dated ⟨2011, 12, 30⟩ (clock 10 0 0) (east 14 0 0),
    .yearly 2012 2020 [⟨4, .onOrAfter .sunday 1, clock 4 0 0, east 14 0 0, east 13 0 0⟩,
      ⟨9, .last .sunday, clock 3 0 0, east 13 0 0, east 14 0 0⟩],
    .dated ⟨2021, 4, 3⟩ (clock 14 0 0) (east 13 0 0)]

/-- Pacific/Kwajalein. -/
def kwajalein : ZoneRecord where
  base := east 11 9 20
  lines := [
    .dated ⟨1900, 12, 31⟩ (clock 12 50 40) (east 11 0 0),
    .dated ⟨1936, 12, 31⟩ (clock 13 0 0) (east 10 0 0),
    .dated ⟨1941, 3, 31⟩ (clock 14 0 0) (east 9 0 0),
    .dated ⟨1944, 2, 5⟩ (clock 15 0 0) (east 11 0 0),
    .dated ⟨1969, 9, 30⟩ (clock 13 0 0) (west 12 0 0),
    .dated ⟨1993, 8, 21⟩ (clock 12 0 0) (east 12 0 0)]

/-- Pacific/Chatham. -/
def chatham : ZoneRecord where
  base := east 12 13 48
  lines := [
    .dated ⟨1868, 11, 1⟩ (clock 11 46 12) (east 12 15 0),
    .dated ⟨1945, 12, 31⟩ (clock 11 45 0) (east 12 45 0),
    .dated ⟨1974, 11, 2⟩ (clock 14 0 0) (east 13 45 0),
    .dated ⟨1975, 2, 22⟩ (clock 14 0 0) (east 12 45 0),
    .dated ⟨1975, 10, 25⟩ (clock 14 0 0) (east 13 45 0),
    .yearly 1976 1988 [⟨3, .onOrAfter .sunday 1, clock 3 45 0, east 13 45 0, east 12 45 0⟩,
      ⟨10, .last .sunday, clock 2 45 0, east 12 45 0, east 13 45 0⟩],
    .dated ⟨1989, 3, 4⟩ (clock 14 0 0) (east 12 45 0),
    .dated ⟨1989, 10, 7⟩ (clock 14 0 0) (east 13 45 0),
    .yearly 1990 2006 [⟨3, .onOrAfter .sunday 15, clock 3 45 0, east 13 45 0, east 12 45 0⟩,
      ⟨10, .onOrAfter .sunday 1, clock 2 45 0, east 12 45 0, east 13 45 0⟩],
    .dated ⟨2007, 3, 17⟩ (clock 14 0 0) (east 12 45 0),
    .dated ⟨2007, 9, 29⟩ (clock 14 0 0) (east 13 45 0),
    .yearly 2008 2099 [⟨4, .onOrAfter .sunday 1, clock 3 45 0, east 13 45 0, east 12 45 0⟩,
      ⟨9, .last .sunday, clock 2 45 0, east 12 45 0, east 13 45 0⟩]]

/-- Antarctica/Troll. -/
def troll : ZoneRecord where
  base := east 0 0 0
  lines := [
    .yearly 2005 2099 [⟨3, .last .sunday, clock 1 0 0, east 0 0 0, east 2 0 0⟩,
      ⟨10, .last .sunday, clock 3 0 0, east 2 0 0, east 0 0 0⟩]]

/-- Atlantic/Azores. -/
def azores : ZoneRecord where
  base := west 1 42 40
  lines := [
    .dated ⟨1884, 1, 1⟩ (clock 1 42 40) (west 1 54 32),
    .dated ⟨1912, 1, 1⟩ (clock 2 0 0) (west 2 0 0),
    .dated ⟨1916, 6, 18⟩ (clock 1 0 0) (west 1 0 0),
    .dated ⟨1916, 11, 1⟩ (clock 2 0 0) (west 2 0 0),
    .dated ⟨1917, 3, 1⟩ (clock 2 0 0) (west 1 0 0),
    .dated ⟨1917, 10, 15⟩ (clock 1 0 0) (west 2 0 0),
    .dated ⟨1918, 3, 1⟩ (clock 2 0 0) (west 1 0 0),
    .dated ⟨1918, 10, 15⟩ (clock 1 0 0) (west 2 0 0),
    .dated ⟨1919, 3, 1⟩ (clock 2 0 0) (west 1 0 0),
    .dated ⟨1919, 10, 15⟩ (clock 1 0 0) (west 2 0 0),
    .dated ⟨1920, 3, 1⟩ (clock 2 0 0) (west 1 0 0),
    .dated ⟨1920, 10, 15⟩ (clock 1 0 0) (west 2 0 0),
    .dated ⟨1921, 3, 1⟩ (clock 2 0 0) (west 1 0 0),
    .dated ⟨1921, 10, 15⟩ (clock 1 0 0) (west 2 0 0),
    .dated ⟨1924, 4, 17⟩ (clock 1 0 0) (west 1 0 0),
    .dated ⟨1924, 10, 5⟩ (clock 1 0 0) (west 2 0 0),
    .dated ⟨1926, 4, 18⟩ (clock 1 0 0) (west 1 0 0),
    .dated ⟨1926, 10, 3⟩ (clock 1 0 0) (west 2 0 0),
    .dated ⟨1927, 4, 10⟩ (clock 1 0 0) (west 1 0 0),
    .dated ⟨1927, 10, 2⟩ (clock 1 0 0) (west 2 0 0),
    .dated ⟨1928, 4, 15⟩ (clock 1 0 0) (west 1 0 0),
    .dated ⟨1928, 10, 7⟩ (clock 1 0 0) (west 2 0 0),
    .dated ⟨1929, 4, 21⟩ (clock 1 0 0) (west 1 0 0),
    .dated ⟨1929, 10, 6⟩ (clock 1 0 0) (west 2 0 0),
    .dated ⟨1931, 4, 19⟩ (clock 1 0 0) (west 1 0 0),
    .dated ⟨1931, 10, 4⟩ (clock 1 0 0) (west 2 0 0),
    .dated ⟨1932, 4, 3⟩ (clock 1 0 0) (west 1 0 0),
    .dated ⟨1932, 10, 2⟩ (clock 1 0 0) (west 2 0 0),
    .dated ⟨1934, 4, 8⟩ (clock 1 0 0) (west 1 0 0),
    .dated ⟨1934, 10, 7⟩ (clock 1 0 0) (west 2 0 0),
    .dated ⟨1935, 3, 31⟩ (clock 1 0 0) (west 1 0 0),
    .dated ⟨1935, 10, 6⟩ (clock 1 0 0) (west 2 0 0),
    .dated ⟨1936, 4, 19⟩ (clock 1 0 0) (west 1 0 0),
    .dated ⟨1936, 10, 4⟩ (clock 1 0 0) (west 2 0 0),
    .dated ⟨1937, 4, 4⟩ (clock 1 0 0) (west 1 0 0),
    .dated ⟨1937, 10, 3⟩ (clock 1 0 0) (west 2 0 0),
    .dated ⟨1938, 3, 27⟩ (clock 1 0 0) (west 1 0 0),
    .dated ⟨1938, 10, 2⟩ (clock 1 0 0) (west 2 0 0),
    .dated ⟨1939, 4, 16⟩ (clock 1 0 0) (west 1 0 0),
    .dated ⟨1939, 11, 19⟩ (clock 1 0 0) (west 2 0 0),
    .dated ⟨1940, 2, 25⟩ (clock 1 0 0) (west 1 0 0),
    .dated ⟨1940, 10, 8⟩ (clock 1 0 0) (west 2 0 0),
    .dated ⟨1941, 4, 6⟩ (clock 1 0 0) (west 1 0 0),
    .dated ⟨1941, 10, 6⟩ (clock 1 0 0) (west 2 0 0),
    .dated ⟨1942, 3, 15⟩ (clock 1 0 0) (west 1 0 0),
    .dated ⟨1942, 4, 26⟩ (clock 0 0 0) (east 0 0 0),
    .dated ⟨1942, 8, 16⟩ (clock 0 0 0) (west 1 0 0),
    .dated ⟨1942, 10, 25⟩ (clock 1 0 0) (west 2 0 0),
    .yearly 1943 1945 [⟨3, .onOrAfter .saturday 7, clock 23 0 0, west 2 0 0, west 1 0 0⟩,
      ⟨4, .onOrAfter .saturday 16, clock 23 0 0, west 1 0 0, east 0 0 0⟩,
      ⟨8, .last .sunday, clock 0 0 0, east 0 0 0, west 1 0 0⟩,
      ⟨10, .last .sunday, clock 0 0 0, west 1 0 0, west 2 0 0⟩],
    .dated ⟨1946, 4, 7⟩ (clock 1 0 0) (west 1 0 0),
    .dated ⟨1946, 10, 6⟩ (clock 1 0 0) (west 2 0 0),
    .yearly 1947 1965 [⟨4, .onOrAfter .sunday 1, clock 2 0 0, west 2 0 0, west 1 0 0⟩,
      ⟨10, .onOrAfter .sunday 1, clock 3 0 0, west 1 0 0, west 2 0 0⟩],
    .dated ⟨1966, 4, 3⟩ (clock 4 0 0) (west 1 0 0),
    .yearly 1982 1991 [⟨3, .last .sunday, clock 0 0 0, west 1 0 0, east 0 0 0⟩,
      ⟨9, .last .sunday, clock 1 0 0, east 0 0 0, west 1 0 0⟩],
    .dated ⟨1992, 3, 29⟩ (clock 1 0 0) (east 0 0 0),
    .dated ⟨1992, 9, 27⟩ (clock 1 0 0) (west 1 0 0),
    .dated ⟨1992, 12, 27⟩ (clock 2 0 0) (east 0 0 0),
    .dated ⟨1993, 3, 28⟩ (clock 1 0 0) (east 1 0 0),
    .dated ⟨1993, 6, 17⟩ (clock 1 0 0) (east 0 0 0),
    .dated ⟨1993, 9, 26⟩ (clock 1 0 0) (west 1 0 0),
    .dated ⟨1994, 3, 27⟩ (clock 1 0 0) (east 0 0 0),
    .dated ⟨1994, 9, 25⟩ (clock 1 0 0) (west 1 0 0),
    .dated ⟨1995, 3, 26⟩ (clock 1 0 0) (east 0 0 0),
    .dated ⟨1995, 9, 24⟩ (clock 1 0 0) (west 1 0 0),
    .yearly 1996 2099 [⟨3, .last .sunday, clock 0 0 0, west 1 0 0, east 0 0 0⟩,
      ⟨10, .last .sunday, clock 1 0 0, east 0 0 0, west 1 0 0⟩]]

/-- Pacific/Kiritimati. -/
def kiritimati : ZoneRecord where
  base := west 10 29 20
  lines := [
    .dated ⟨1901, 1, 1⟩ (clock 10 29 20) (west 10 40 0),
    .dated ⟨1979, 10, 1⟩ (clock 10 40 0) (west 10 0 0),
    .dated ⟨1994, 12, 31⟩ (clock 10 0 0) (east 14 0 0)]

end BucketPlan.ZoneRecord
