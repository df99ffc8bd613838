import BucketPlan.Zone.Table

/-!
Records of the time zone database, release 2025b, up to the year 2099.
-/

namespace BucketPlan.ZoneRecord

/-- America/New_York. -/
def newYork : ZoneRecord where
  base := west 4 56 2
  lines := [
    .dated ⟨1883, 11, 18⟩ (clock 17 0 0) (west 5 0 0),
    .yearly 1918 1920 [⟨3, .last .sunday, clock 2 0 0, west 5 0 0, west 4 0 0⟩,
      ⟨10, .last .sunday, clock 2 0 0, west 4 0 0, west 5 0 0⟩],
    .yearly 1921 1941 [⟨4, .last .sunday, clock 2 0 0, west 5 0 0, west 4 0 0⟩,
      ⟨9, .last .sunday, clock 2 0 0, west 4 0 0, west 5 0 0⟩],
    .dated ⟨1942, 2, 9⟩ (clock 7 0 0) (west 4 0 0),
    .dated ⟨1945, 9, 30⟩ (clock 6 0 0) (west 5 0 0),
    .yearly 1946 1954 [⟨4, .last .sunday, clock 2 0 0, west 5 0 0, west 4 0 0⟩,
      ⟨9, .last .sunday, clock 2 0 0, west 4 0 0, west 5 0 0⟩],
    .yearly 1955 1973 [⟨4, .last .sunday, clock 2 0 0, west 5 0 0, west 4 0 0⟩,
      ⟨10, .last .sunday, clock 2 0 0, west 4 0 0, west 5 0 0⟩],
    .dated ⟨1974, 1, 6⟩ (clock 7 0 0) (west 4 0 0),
    .dated ⟨1974, 10, 27⟩ (clock 6 0 0) (west 5 0 0),
    .dated ⟨1975, 2, 23⟩ (clock 7 0 0) (west 4 0 0),
    .dated ⟨1975, 10, 26⟩ (clock 6 0 0) (west 5 0 0),
    .yearly 1976 1986 [⟨4, .last .sunday, clock 2 0 0, west 5 0 0, west 4 0 0⟩,
      ⟨10, .last .sunday, clock 2 0 0, west 4 0 0, west 5 0 0⟩],
    .yearly 1987 2006 [⟨4, .onOrAfter .sunday 1, clock 2 0 0, west 5 0 0, west 4 0 0⟩,
      ⟨10, .last .sunday, clock 2 0 0, west 4 0 0, west 5 0 0⟩],
    .yearly 2007 2099 [⟨3, .onOrAfter .sunday 8, clock 2 0 0, west 5 0 0, west 4 0 0⟩,
      ⟨11, .onOrAfter .sunday 1, clock 2 0 0, west 4 0 0, west 5 0 0⟩]]

/-- America/Sao_Paulo. -/
def saoPaulo : ZoneRecord where
  base := west 3 6 28
  lines := [
    .dated ⟨1914, 1, 1⟩ (clock 3 6 28) (west 3 0 0),
    .dated ⟨1931, 10, 3⟩ (clock 14 0 0) (west 2 0 0),
    .dated ⟨1932, 4, 1⟩ (clock 2 0 0) (west 3 0 0),
    .dated ⟨1932, 10, 3⟩ (clock 3 0 0) (west 2 0 0),
    .dated ⟨1933, 4, 1⟩ (clock 2 0 0) (west 3 0 0),
    .dated ⟨1949, 12, 1⟩ (clock 3 0 0) (west 2 0 0),
    .dated ⟨1950, 4, 16⟩ (clock 3 0 0) (west 3 0 0),
    .dated ⟨1950, 12, 1⟩ (clock 3 0 0) (west 2 0 0),
    .dated ⟨1951, 4, 1⟩ (clock 2 0 0) (west 3 0 0),
    .dated ⟨1951, 12, 1⟩ (clock 3 0 0) (west 2 0 0),
    .dated ⟨1952, 4, 1⟩ (clock 2 0 0) (west 3 0 0),
    .dated ⟨1952, 12, 1⟩ (clock 3 0 0) (west 2 0 0),
    .dated ⟨1953, 3, 1⟩ (clock 2 0 0) (west 3 0 0),
    .dated ⟨1963, 10, 23⟩ (clock 3 0 0) (west 2 0 0),
    .dated ⟨1964, 3, 1⟩ (clock 2 0 0) (west 3 0 0),
    .dated ⟨1965, 1, 31⟩ (clock 3 0 0) (west 2 0 0),
    .dated ⟨1965, 3, 31⟩ (clock 2 0 0) (west 3 0 0),
    .dated ⟨1965, 12, 1⟩ (clock 3 0 0) (west 2 0 0),
    .dated ⟨1966, 3, 1⟩ (clock 2 0 0) (west 3 0 0),
    .dated ⟨1966, 11, 1⟩ (clock 3 0 0) (west 2 0 0),
    .dated ⟨1967, 3, 1⟩ (clock 2 0 0) (west 3 0 0),
    .dated ⟨1967, 11, 1⟩ (clock 3 0 0) (west 2 0 0),
    .dated ⟨1968, 3, 1⟩ (clock 2 0 0) (west 3 0 0),
    .dated ⟨1985, 11, 2⟩ (clock 3 0 0) (west 2 0 0),
    .dated ⟨1986, 3, 15⟩ (clock 2 0 0) (west 3 0 0),
    .dated ⟨1986, 10, 25⟩ (clock 3 0 0) (west 2 0 0),
    .dated ⟨1987, 2, 14⟩ (clock 2 0 0) (west 3 0 0),
    .dated ⟨1987, 10, 25⟩ (clock 3 0 0) (west 2 0 0),
    .dated ⟨1988, 2, 7⟩ (clock 2 0 0) (west 3 0 0),
    .dated ⟨1988, 10, 16⟩ (clock 3 0 0) (west 2 0 0),
    .dated ⟨1989, 1, 29⟩ (clock 2 0 0) (west 3 0 0),
    .dated ⟨1989, 10, 15⟩ (clock 3 0 0) (west 2 0 0),
    .dated ⟨1990, 2, 11⟩ (clock 2 0 0) (west 3 0 0),
    .dated ⟨1990, 10, 21⟩ (clock 3 0 0) (west 2 0 0),
    .dated ⟨1991, 2, 17⟩ (clock 2 0 0) (west 3 0 0),
    .dated ⟨1991, 10, 20⟩ (clock 3 0 0) (west 2 0 0),
    .dated ⟨1992, 2, 9⟩ (clock 2 0 0) (west 3 0 0),
    .dated ⟨1992, 10, 25⟩ (clock 3 0 0) (west 2 0 0),
    .dated ⟨1993, 1, 31⟩ (clock 2 0 0) (west 3 0 0),
    .dated ⟨1993, 10, 17⟩ (clock 3 0 0) (west 2 0 0),
    .dated ⟨1994, 2, 20⟩ (clock 2 0 0) (west 3 0 0),
    .dated ⟨1994, 10, 16⟩ (clock 3 0 0) (west 2 0 0),
    .dated ⟨1995, 2, 19⟩ (clock 2 0 0) (west 3 0 0),
    .dated ⟨1995, 10, 15⟩ (clock 3 0 0) (west 2 0 0),
    .dated ⟨1996, 2, 11⟩ (clock 2 0 0) (west 3 0 0),
    .dated ⟨1996, 10, 6⟩ (clock 3 0 0) (west 2 0 0),
    .dated ⟨1997, 2, 16⟩ (clock 2 0 0) (west 3 0 0),
    .dated ⟨1997, 10, 6⟩ (clock 3 0 0) (west 2 0 0),
    .dated ⟨1998, 3, 1⟩ (clock 2 0 0) (west 3 0 0),
    .dated ⟨1998, 10, 11⟩ (clock 3 0 0) (west 2 0 0),
    .dated ⟨1999, 2, 21⟩ (clock 2 0 0) (west 3 0 0),
    .dated ⟨1999, 10, 3⟩ (clock 3 0 0) (west 2 0 0),
    .dated ⟨2000, 2, 27⟩ (clock 2 0 0) (west 3 0 0),
    .dated ⟨2000, 10, 8⟩ (clock 3 0 0) (west 2 0 0),
    .dated ⟨2001, 2, 18⟩ (clock 2 0 0) (west 3 0 0),
    .dated ⟨2001, 10, 14⟩ (clock 3 0 0) (west 2 0 0),
    .dated ⟨2002, 2, 17⟩ (clock 2 0 0) (west 3 0 0),
    .dated ⟨2002, 11, 3⟩ (clock 3 0 0) (west 2 0 0),
    .dated ⟨2003, 2, 16⟩ (clock 2 0 0) (west 3 0 0),
    .dated ⟨2003, 10, 19⟩ (clock 3 0 0) (west 2 0 0),
    .dated ⟨2004, 2, 15⟩ (clock 2 0 0) (west 3 0 0),
    .dated ⟨2004, 11, 2⟩ (clock 3 0 0) (west 2 0 0),
    .dated ⟨2005, 2, 20⟩ (clock 2 0 0) (west 3 0 0),
    .dated ⟨2005, 10, 16⟩ (clock 3 0 0) (west 2 0 0),
    .dated ⟨2006, 2, 19⟩ (clock 2 0 0) (west 3 0 0),
    .dated ⟨2006, 11, 5⟩ (clock 3 0 0) (west 2 0 0),
    .dated ⟨2007, 2, 25⟩ (clock 2 0 0) (west 3 0 0),
    .dated ⟨2007, 10, 14⟩ (clock 3 0 0) (west 2 0 0),
    .yearly 2008 2011 [⟨2, .onOrAfter .sunday 15, clock 0 0 0, west 2 0 0, west 3 0 0⟩,
      ⟨10, .onOrAfter .sunday 13, clock 0 0 0, west 3 0 0, west 2 0 0⟩],
    .dated ⟨2012, 2, 26⟩ (clock 2 0 0) (west 3 0 0),
    .dated ⟨2012, 10, 21⟩ (clock 3 0 0) (west 2 0 0),
    .yearly 2013 2017 [⟨2, .onOrAfter .sunday 16, clock 0 0 0, west 2 0 0, west 3 0 0⟩,
      ⟨10, .onOrAfter .sunday 14, clock 0 0 0, west 3 0 0, west 2 0 0⟩],
    .dated ⟨2018, 2, 18⟩ (clock 2 0 0) (west 3 0 0),
    .dated ⟨2018, 11, 4⟩ (clock 3 0 0) (west 2 0 0),
    .dated ⟨2019, 2, 17⟩ (clock 2 0 0) (west 3 0 0)]

/-- America/Havana. -/
def havana : ZoneRecord where
  base := west 5 29 28
  lines := [
    .dated ⟨1890, 1, 1⟩ (clock 5 29 28) (west 5 29 36),
    .dated ⟨1925, 7, 19⟩ (clock 17 29 36) (west 5 0 0),
    .dated ⟨1928, 6, 10⟩ (clock 5 0 0) (west 4 0 0),
    .dated ⟨1928, 10, 10⟩ (clock 4 0 0) (west 5 0 0),
    .yearly 1940 1942 [⟨6, .onOrAfter .sunday 1, clock 0 0 0, west 5 0 0, west 4 0 0⟩,
      ⟨9, .onOrAfter .sunday 1, clock 0 0 0, west 4 0 0, west 5 0 0⟩],
    .dated ⟨1945, 6, 3⟩ (clock 5 0 0) (west 4 0 0),
    .dated ⟨1945, 9, 2⟩ (clock 4 0 0) (west 5 0 0),
    .dated ⟨1946, 6, 2⟩ (clock 5 0 0) (west 4 0 0),
    .dated ⟨1946, 9, 1⟩ (clock 4 0 0) (west 5 0 0),
    .dated ⟨1965, 6, 1⟩ (clock 5 0 0) (west 4 0 0),
    .dated ⟨1965, 9, 30⟩ (clock 4 0 0) (west 5 0 0),
    .dated ⟨1966, 5, 29⟩ (clock 5 0 0) (west 4 0 0),
    .dated ⟨1966, 10, 2⟩ (clock 4 0 0) (west 5 0 0),
    .dated ⟨1967, 4, 8⟩ (clock 5 0 0) (west 4 0 0),
    .dated ⟨1967, 9, 10⟩ (clock 4 0 0) (west 5 0 0),
    .dated ⟨1968, 4, 14⟩ (clock 5 0 0) (west 4 0 0),
    .dated ⟨1968, 9, 8⟩ (clock 4 0 0) (west 5 0 0),
    .yearly 1969 1971 [⟨4, .last .sunday, clock 0 0 0, west 5 0 0, west 4 0 0⟩,
      ⟨10, .last .sunday, clock 0 0 0, west 4 0 0, west 5 0 0⟩],
    .dated ⟨1972, 4, 30⟩ (clock 5 0 0) (west 4 0 0),
    .dated ⟨1972, 10, 8⟩ (clock 4 0 0) (west 5 0 0),
    .dated ⟨1973, 4, 29⟩ (clock 5 0 0) (west 4 0 0),
    .dated ⟨1973, 10, 8⟩ (clock 4 0 0) (west 5 0 0),
    .dated ⟨1974, 4, 28⟩ (clock 5 0 0) (west 4 0 0),
    .dated ⟨1974, 10, 8⟩ (clock 4 0 0) (west 5 0 0),
    .yearly 1975 1977 [⟨4, .last .sunday, clock 0 0 0, west 5 0 0, west 4 0 0⟩,
      ⟨10, .last .sunday, clock 0 0 0, west 4 0 0, west 5 0 0⟩],
    .dated ⟨1978, 5, 7⟩ (clock 5 0 0) (west 4 0 0),
    .dated ⟨1978, 10, 8⟩ (clock 4 0 0) (west 5 0 0),
    .dated ⟨1979, 3, 18⟩ (clock 5 0 0) (west 4 0 0),
    .dated ⟨1979, 10, 14⟩ (clock 4 0 0) (west 5 0 0),
    .dated ⟨1980, 3, 16⟩ (clock 5 0 0) (west 4 0 0),
    .dated ⟨1980, 10, 12⟩ (clock 4 0 0) (west 5 0 0),
    .yearly 1981 1985 [⟨5, .onOrAfter .sunday 4, clock 0 0 0, west 5 0 0, west 4 0 0⟩,
      ⟨10, .onOrAfter .sunday 8, clock 0 0 0, west 4 0 0, west 5 0 0⟩],
    .yearly 1986 1989 [⟨3, .onOrAfter .sunday 14, clock 0 0 0, west 5 0 0, west 4 0 0⟩,
      ⟨10, .onOrAfter .sunday 6, clock 0 0 0, west 4 0 0, west 5 0 0⟩],
    .dated ⟨1990, 4, 1⟩ (clock 5 0 0) (west 4 0 0),
    .dated ⟨1990, 10, 14⟩ (clock 4 0 0) (west 5 0 0),
    .yearly 1991 1995 [⟨4, .onOrAfter .sunday 1, clock 0 0 0, west 5 0 0, west 4 0 0⟩,
      ⟨10, .onOrAfter .sunday 7, clock 1 0 0, west 4 0 0, west 5 0 0⟩],
    .dated ⟨1996, 4, 7⟩ (clock 5 0 0) (west 4 0 0),
    .dated ⟨1996, 10, 6⟩ (clock 5 0 0) (west 5 0 0),
    .dated ⟨1997, 4, 6⟩ (clock 5 0 0) (west 4 0 0),
    .dated ⟨1997, 10, 12⟩ (clock 5 0 0) (west 5 0 0),
    .dated ⟨1998, 3, 29⟩ (clock 5 0 0) (west 4 0 0),
    .dated ⟨1998, 10, 25⟩ (clock 5 0 0) (west 5 0 0),
    .dated ⟨1999, 3, 28⟩ (clock 5 0 0) (west 4 0 0),
    .dated ⟨1999, 10, 31⟩ (clock 5 0 0) (west 5 0 0),
    .yearly 2000 2003 [⟨4, .onOrAfter .sunday 1, clock 0 0 0, west 5 0 0, west 4 0 0⟩,
      ⟨10, .last .sunday, clock 1 0 0, west 4 0 0, west 5 0 0⟩],
    .dated ⟨2004, 3, 28⟩ (clock 5 0 0) (west 4 0 0),
    .dated ⟨2006, 10, 29⟩ (clock 5 0 0) (west 5 0 0),
    .dated ⟨2007, 3, 11⟩ (clock 5 0 0) (west 4 0 0),
    .dated ⟨2007, 10, 28⟩ (clock 5 0 0) (west 5 0 0),
    .dated ⟨2008, 3, 16⟩ (clock 5 0 0) (west 4 0 0),
    .dated ⟨2008, 10, 26⟩ (clock 5 0 0) (west 5 0 0),
    .dated ⟨2009, 3, 8⟩ (clock 5 0 0) (west 4 0 0),
    .dated ⟨2009, 10, 25⟩ (clock 5 0 0) (west 5 0 0),
    .dated ⟨2010, 3, 14⟩ (clock 5 0 0) (west 4 0 0),
    .dated ⟨2010, 10, 31⟩ (clock 5 0 0) (west 5 0 0),
    .dated ⟨2011, 3, 20⟩ (clock 5 0 0) (west 4 0 0),
    .dated ⟨2011, 11, 13⟩ (clock 5 0 0) (west 5 0 0),
    .dated ⟨2012, 4, 1⟩ (clock 5 0 0) (west 4 0 0),
    .dated ⟨2012, 11, 4⟩ (clock 5 0 0) (west 5 0 0),
    .yearly 2013 2099 [⟨3, .onOrAfter .sunday 8, clock 0 0 0, west 5 0 0, west 4 0 0⟩,
      ⟨11, .onOrAfter .sunday 1, clock 1 0 0, west 4 0 0, west 5 0 0⟩]]

/-- America/St_Johns. -/
def stJohns : ZoneRecord where
  base := west 3 30 52
  lines := [
    .dated ⟨1917, 4, 8⟩ (clock 5 30 52) (west 2 30 52),
    .dated ⟨1917, 9, 17⟩ (clock 4 30 52) (west 3 30 52),
    .dated ⟨1918, 4, 14⟩ (clock 5 30 52) (west 2 30 52),
    .dated ⟨1918, 10, 27⟩ (clock 4 30 52) (west 3 30 52),
    .dated ⟨1919, 5, 6⟩ (clock 2 30 52) (west 2 30 52),
    .dated ⟨1919, 8, 13⟩ (clock 1 30 52) (west 3 30 52),
    .yearly 1920 1934 [⟨5, .onOrAfter .sunday 1, clock 23 0 0, west 3 30 52, west 2 30 52⟩,
      ⟨10, .last .sunday, clock 23 0 0, west 2 30 52, west 3 30 52⟩],
    .dated ⟨1935, 3, 30⟩ (clock 3 30 52) (west 3 30 0),
    .dated ⟨1935, 5, 6⟩ (clock 2 30 0) (west 2 30 0),
    .dated ⟨1935, 10, 28⟩ (clock 1 30 0) (west 3 30 0),
    .yearly 1936 1941 [⟨5, .onOrAfter .monday 9, clock 0 0 0, west 3 30 0, west 2 30 0⟩,
      ⟨10, .onOrAfter .monday 1, clock 0 0 0, west 2 30 0, west 3 30 0⟩],
    .dated ⟨1942, 5, 11⟩ (clock 3 30 0) (west 2 30 0),
    .dated ⟨1945, 9, 30⟩ (clock 4 30 0) (west 3 30 0),
    .yearly 1946 1950 [⟨5, .onOrAfter .sunday 8, clock 2 0 0, west 3 30 0, west 2 30 0⟩,
      ⟨10, .onOrAfter .sunday 2, clock 2 0 0, west 2 30 0, west 3 30 0⟩],
    .yearly 1951 1959 [⟨4, .last .sunday, clock 2 0 0, west 3 30 0, west 2 30 0⟩,
      ⟨9, .last .sunday, clock 2 0 0, west 2 30 0, west 3 30 0⟩],
    .yearly 1960 1986 [⟨4, .last .sunday, clock 2 0 0, west 3 30 0, west 2 30 0⟩,
      ⟨10, .last .sunday, clock 2 0 0, west 2 30 0, west 3 30 0⟩],
    .dated ⟨1987, 4, 5⟩ (clock 3 31 0) (west 2 30 0),
    .dated ⟨1987, 10, 25⟩ (clock 2 31 0) (west 3 30 0),
    .dated ⟨1988, 4, 3⟩ (clock 3 31 0) (west 1 30 0),
    .dated ⟨1988, 10, 30⟩ (clock 1 31 0) (west 3 30 0),
    .yearly 1989 2006 [⟨4, .onOrAfter .sunday 1, clock 0 1 0, west 3 30 0, west 2 30 0⟩,
      ⟨10, .last .sunday, clock 0 1 0, west 2 30 0, west 3 30 0⟩],
    .yearly 2007 2010 [⟨3, .onOrAfter .sunday 8, clock 0 1 0, west 3 30 0, west 2 30 0⟩,
      ⟨11, .onOrAfter .sunday 1, clock 0 1 0, west 2 30 0, west 3 30 0⟩],
    .dated ⟨2011, 3, 13⟩ (clock 3 31 0) (west 2 30 0),
    .dated ⟨2011, 11, 6⟩ (clock 4 30 0) (west 3 30 0),
    .yearly 2012 2099 [⟨3, .onOrAfter .sunday 8, clock 2 0 0, west 3 30 0, west 2 30 0⟩,
      ⟨11, .onOrAfter .sunday 1, clock 2 0 0, west 2 30 0, west 3 30 0⟩]]

/-- America/Sitka. -/
def sitka : ZoneRecord where
  base := east 14 58 47
  lines := [
    .dated ⟨1867, 10, 19⟩ (clock 0 31 13) (west 9 1 13),
    .dated ⟨1900, 8, 20⟩ (clock 21 1 13) (west 8 0 0),
    .dated ⟨1942, 2, 9⟩ (clock 10 0 0) (west 7 0 0),
    .dated ⟨1945, 9, 30⟩ (clock 9 0 0) (west 8 0 0),
    .yearly 1969 1973 [⟨4, .last .sunday, clock 2 0 0, west 8 0 0, west 7 0 0⟩,
      ⟨10, .last .sunday, clock 2 0 0, west 7 0 0, west 8 0 0⟩],
    .dated ⟨1974, 1, 6⟩ (clock 10 0 0) (west 7 0 0),
    .dated ⟨1974, 10, 27⟩ (clock 9 0 0) (west 8 0 0),
    .dated ⟨1975, 2, 23⟩ (clock 10 0 0) (west 7 0 0),
    .dated ⟨1975, 10, 26⟩ (clock 9 0 0) (west 8 0 0),
    .yearly 1976 1982 [⟨4, .last .sunday, clock 2 0 0, west 8 0 0, west 7 0 0⟩,
      ⟨10, .last .sunday, clock 2 0 0, west 7 0 0, west 8 0 0⟩],
    .dated ⟨1983, 4, 24⟩ (clock 10 0 0) (west 7 0 0),
    .dated ⟨1983, 10, 30⟩ (clock 9 0 0) (west 9 0 0),
    .yearly 1984 1986 [⟨4, .last .sunday, clock 2 0 0, west 9 0 0, west 8 0 0⟩,
      ⟨10, .last .sunday, clock 2 0 0, west 8 0 0, west 9 0 0⟩],
    .yearly 1987 2006 [⟨4, .onOrAfter .sunday 1, clock 2 0 0, west 9 0 0, west 8 0 0⟩,
      ⟨10, .last .sunday, clock 2 0 0, west 8 0 0, west 9 0 0⟩],
    .yearly 2007 2099 [⟨3, .onOrAfter .sunday 8, clock 2 0 0, west 9 0 0, west 8 0 0⟩,
      ⟨11, .onOrAfter .sunday 1, clock 2 0 0, west 8 0 0, west 9 0 0⟩]]

/-- America/Caracas. -/
def caracas : ZoneRecord where
  base := west 4 27 44
  lines := [
    .dated ⟨1890, 1, 1⟩ (clock 4 27 44) (west 4 27 40),
    .dated ⟨1912, 2, 12⟩ (clock 4 27 40) (west 4 30 0),
    .dated ⟨1965, 1, 1⟩ (clock 4 30 0) (west 4 0 0),
    .dated ⟨2007, 12, 9⟩ (clock 7 0 0) (west 4 30 0),
    .dated ⟨2016, 5, 1⟩ (clock 7 0 0) (west 4 0 0)]

/-- America/Scoresbysund. -/
def scoresbysund : ZoneRecord where
  base := west 1 27 52
  lines := [
    .dated ⟨1916, 7, 28⟩ (clock 1 27 52) (west 2 0 0),
    .dated ⟨1980, 4, 6⟩ (clock 4 0 0) (west 1 0 0),
    .dated ⟨1980, 9, 28⟩ (clock 4 0 0) (west 2 0 0),
    .dated ⟨1981, 3, 29⟩ (clock 2 0 0) (east 0 0 0),
    .dated ⟨1981, 9, 27⟩ (clock 1 0 0) (west 1 0 0),
    .yearly 1982 1995 [⟨3, .last .sunday, clock 0 0 0, west 1 0 0, east 0 0 0⟩,
      ⟨9, .last .sunday, clock 1 0 0, east 0 0 0, west 1 0 0⟩],
    .yearly 1996 2023 [⟨3, .last .sunday, clock 0 0 0, west 1 0 0, east 0 0 0⟩,
      ⟨10, .last .sunday, clock 1 0 0, east 0 0 0, west 1 0 0⟩],
    .dated ⟨2024, 10, 27⟩ (clock 1 0 0) (west 2 0 0),
    .yearly 2025 2099 [⟨3, .onOrAfter .saturday 24, clock 23 0 0, west 2 0 0, west 1 0 0⟩,
      ⟨10, .last .sunday, clock 0 0 0, west 1 0 0, west 2 0 0⟩]]

end BucketPlan.ZoneRecord
