import BucketPlan.Zone.Table

/-!
Records of the time zone database, release 2025b, up to the year 2099.
-/

namespace BucketPlan.ZoneRecord

/-- Asia/Tokyo. -/
def tokyo : ZoneRecord where
  base := east 9 18 59
  lines := [
    .dated ⟨1887, 12, 31⟩ (clock 15 0 0) (east 9 0 0),
    .dated ⟨1948, 5, 1⟩ (clock 15 0 0) (east 10 0 0),
    .dated ⟨1948, 9, 11⟩ (clock 15 0 0) (east 9 0 0),
    .dated ⟨1949, 4, 2⟩ (clock 15 0 0) (east 10 0 0),
    .dated ⟨1949, 9, 10⟩ (clock 15 0 0) (east 9 0 0),
    .dated ⟨1950, 5, 6⟩ (clock 15 0 0) (east 10 0 0),
    .dated ⟨1950, 9, 9⟩ (clock 15 0 0) (east 9 0 0),
    .dated ⟨1951, 5, 5⟩ (clock 15 0 0) (east 10 0 0),
    .dated ⟨1951, 9, 8⟩ (clock 15 0 0) (east 9 0 0)]

/-- Asia/Kolkata. -/
def kolkata : ZoneRecord where
  base := east 5 53 28
  lines := [
    .dated ⟨1854, 6, 27⟩ (clock 18 6 32) (east 5 53 20),
    .dated ⟨1869, 12, 31⟩ (clock 18 6 40) (east 5 21 10),
    .dated ⟨1905, 12, 31⟩ (clock 18 38 50) (east 5 30 0),
    .dated ⟨1941, 9, 30⟩ (clock 18 30 0) (east 6 30 0),
    .dated ⟨1942, 5, 14⟩ (clock 17 30 0) (east 5 30 0),
    .dated ⟨1942, 8, 31⟩ (clock 18 30 0) (east 6 30 0),
    .dated ⟨1945, 10, 14⟩ (clock 17 30 0) (east 5 30 0)]

/-- Asia/Kathmandu. -/
def kathmandu : ZoneRecord where
  base := east 5 41 16
  lines := [
    .dated ⟨1919, 12, 31⟩ (clock 18 18 44) (east 5 30 0),
    .dated ⟨1985, 12, 31⟩ (clock 18 30 0) (east 5 45 0)]

/-- Asia/Manila. -/
def manila : ZoneRecord where
  base := west 15 56 8
  lines := [
    .dated ⟨1844, 12, 31⟩ (clock 15 56 8) (east 8 3 52),
    .dated ⟨1899, 9, 6⟩ (clock 4 0 0) (east 8 0 0),
    .dated ⟨1936, 10, 31⟩ (clock 16 0 0) (east 9 0 0),
    .dated ⟨1937, 1, 15⟩ (clock 15 0 0) (east 8 0 0),
    .dated ⟨1941, 12, 15⟩ (clock 16 0 0) (east 9 0 0),
    .dated ⟨1945, 11, 30⟩ (clock 15 0 0) (east 8 0 0),
    .dated ⟨1954, 4, 11⟩ (clock 16 0 0) (east 9 0 0),
    .dated ⟨1954, 6, 4⟩ (clock 15 0 0) (east 8 0 0),
    .dated ⟨1977, 3, 27⟩ (clock 16 0 0) (east 9 0 0),
    .dated ⟨1977, 9, 21⟩ (clock 15 0 0) (east 8 0 0),
    .dated ⟨1990, 5, 20⟩ (clock 16 0 0) (east 9 0 0),
    .dated ⟨1990, 7, 28⟩ (clock 15 0 0) (east 8 0 0)]

/-- Asia/Pyongyang. -/
def pyongyang : ZoneRecord where
  base := east 8 23 0
  lines := [
    .dated ⟨1908, 3, 31⟩ (clock 15 37 0) (east 8 30 0),
    .dated ⟨1911, 12, 31⟩ (clock 15 30 0) (east 9 0 0),
    .dated ⟨2015, 8, 14⟩ (clock 15 0 0) (east 8 30 0),
    .dated ⟨2018, 5, 4⟩ (clock 15 0 0) (east 9 0 0)]

/-- Asia/Beirut. -/
def beirut : ZoneRecord where
  base := east 2 22 0
  lines := [
    .dated ⟨1879, 12, 31⟩ (clock 21 38 0) (east 2 0 0),
    .dated ⟨1920, 3, 27⟩ (clock 22 0 0) (east 3 0 0),
    .dated ⟨1920, 10, 24⟩ (clock 21 0 0) (east 2 0 0),
    .dated ⟨1921, 4, 2⟩ (clock 22 0 0) (east 3 0 0),
    .dated ⟨1921, 10, 2⟩ (clock 21 0 0) (east 2 0 0),
    .dated ⟨1922, 3, 25⟩ (clock 22 0 0) (east 3 0 0),
    .dated ⟨1922, 10, 7⟩ (clock 21 0 0) (east 2 0 0),
    .dated ⟨1923, 4, 21⟩ (clock 22 0 0) (east 3 0 0),
    .dated ⟨1923, 9, 15⟩ (clock 21 0 0) (east 2 0 0),
    .dated ⟨1957, 4, 30⟩ (clock 22 0 0) (east 3 0 0),
    .dated ⟨1957, 9, 30⟩ (clock 21 0 0) (east 2 0 0),
    .dated ⟨1958, 4, 30⟩ (clock 22 0 0) (east 3 0 0),
    .dated ⟨1958, 9, 30⟩ (clock 21 0 0) (east 2 0 0),
    .dated ⟨1959, 4, 30⟩ (clock 22 0 0) (east 3 0 0),
    .dated ⟨1959, 9, 30⟩ (clock 21 0 0) (east 2 0 0),
    .dated ⟨1960, 4, 30⟩ (clock 22 0 0) (east 3 0 0),
    .dated ⟨1960, 9, 30⟩ (clock 21 0 0) (east 2 0 0),
    .dated ⟨1961, 4, 30⟩ (clock 22 0 0) (east 3 0 0),
    .dated ⟨1961, 9, 30⟩ (clock 21 0 0) (east 2 0 0),
    .dated ⟨1972, 6, 21⟩ (clock 22 0 0) (east 3 0 0),
    .dated ⟨1972, 9, 30⟩ (clock 21 0 0) (east 2 0 0),
    .dated ⟨1973, 4, 30⟩ (clock 22 0 0) (east 3 0 0),
    .dated ⟨1973, 9, 30⟩ (clock 21 0 0) (east 2 0 0),
    .dated ⟨1974, 4, 30⟩ (clock 22 0 0) (east 3 0 0),
    .dated ⟨1974, 9, 30⟩ (clock 21 0 0) (east 2 0 0),
    .dated ⟨1975, 4, 30⟩ (clock 22 0 0) (east 3 0 0),
    .dated ⟨1975, 9, 30⟩ (clock 21 0 0) (east 2 0 0),
    .dated ⟨1976, 4, 30⟩ (clock 22 0 0) (east 3 0 0),
    .dated ⟨1976, 9, 30⟩ (clock 21 0 0) (east 2 0 0),
    .dated ⟨1977, 4, 30⟩ (clock 22 0 0) (east 3 0 0),
    .dated ⟨1977, 9, 30⟩ (clock 21 0 0) (east 2 0 0),
    .dated ⟨1978, 4, 29⟩ (clock 22 0 0) (east 3 0 0),
    .dated ⟨1978, 9, 29⟩ (clock 21 0 0) (east 2 0 0),
    .dated ⟨1984, 4, 30⟩ (clock 22 0 0) (east 3 0 0),
    .dated ⟨1984, 10, 15⟩ (clock 21 0 0) (east 2 0 0),
    .dated ⟨1985, 4, 30⟩ (clock 22 0 0) (east 3 0 0),
    .dated ⟨1985, 10, 15⟩ (clock 21 0 0) (east 2 0 0),
    .dated ⟨1986, 4, 30⟩ (clock 22 0 0) (east 3 0 0),
    .dated ⟨1986, 10, 15⟩ (clock 21 0 0) (east 2 0 0),
    .dated ⟨1987, 4, 30⟩ (clock 22 0 0) (east 3 0 0),
    .dated ⟨1987, 10, 15⟩ (clock 21 0 0) (east 2 0 0),
    .dated ⟨1988, 5, 31⟩ (clock 22 0 0) (east 3 0 0),
    .dated ⟨1988, 10, 15⟩ (clock 21 0 0) (east 2 0 0),
    .dated ⟨1989, 5, 9⟩ (clock 22 0 0) (east 3 0 0),
    .dated ⟨1989, 10, 15⟩ (clock 21 0 0) (east 2 0 0),
    .dated ⟨1990, 4, 30⟩ (clock 22 0 0) (east 3 0 0),
    .dated ⟨1990, 10, 15⟩ (clock 21 0 0) (east 2 0 0),
    .dated ⟨1991, 4, 30⟩ (clock 22 0 0) (east 3 0 0),
    .dated ⟨1991, 10, 15⟩ (clock 21 0 0) (east 2 0 0),
    .dated ⟨1992, 4, 30⟩ (clock 22 0 0) (east 3 0 0),
    .dated ⟨1992, 10, 3⟩ (clock 21 0 0) (east 2 0 0),
    .yearly 1993 1998 [⟨3, .last .sunday, clock 0 0 0, east 2 0 0, east 3 0 0⟩,
      ⟨9, .last .sunday, clock 0 0 0, east 3 0 0, east 2 0 0⟩],
    .yearly 1999 2099 [⟨3, .last .sunday, clock 0 0 0, east 2 0 0, east 3 0 0⟩,
      ⟨10, .last .sunday, clock 0 0 0, east 3 0 0, east 2 0 0⟩]]

/-- Asia/Tehran. -/
def tehran : ZoneRecord where
  base := east 3 25 44
  lines := [
    .dated ⟨1935, 6, 12⟩ (clock 20 34 16) (east 3 30 0),
    .dated ⟨1977, 3, 21⟩ (clock 19 30 0) (east 4 30 0),
    .dated ⟨1977, 10, 20⟩ (clock 19 30 0) (east 4 0 0),
    .dated ⟨1978, 3, 24⟩ (clock 20 0 0) (east 5 0 0),
    .dated ⟨1978, 8, 4⟩ (clock 20 0 0) (east 4 0 0),
    .dated ⟨1978, 11, 10⟩ (clock 20 0 0) (east 3 30 0),
    .dated ⟨1979, 5, 26⟩ (clock 20 30 0) (east 4 30 0),
    .dated ⟨1979, 9, 18⟩ (clock 19 30 0) (east 3 30 0),
    .dated ⟨1980, 3, 20⟩ (clock 20 30 0) (east 4 30 0),
    .dated ⟨1980, 9, 22⟩ (clock 19 30 0) (east 3 30 0),
    .dated ⟨1991, 5, 2⟩ (clock 20 30 0) (east 4 30 0),
    .dated ⟨1991, 9, 21⟩ (clock 19 30 0) (east 3 30 0),
    .dated ⟨1992, 3, 21⟩ (clock 20 30 0) (east 4 30 0),
    .dated ⟨1992, 9, 21⟩ (clock 19 30 0) (east 3 30 0),
    .dated ⟨1993, 3, 21⟩ (clock 20 30 0) (east 4 30 0),
    .dated ⟨1993, 9, 21⟩ (clock 19 30 0) (east 3 30 0),
    .dated ⟨1994, 3, 21⟩ (clock 20 30 0) (east 4 30 0),
    .dated ⟨1994, 9, 21⟩ (clock 19 30 0) (east 3 30 0),
    .dated ⟨1995, 3, 21⟩ (clock 20 30 0) (east 4 30 0),
    .dated ⟨1995, 9, 21⟩ (clock 19 30 0) (east 3 30 0),
    .dated ⟨1996, 3, 20⟩ (clock 20 30 0) (east 4 30 0),
    .dated ⟨1996, 9, 20⟩ (clock 19 30 0) (east 3 30 0),
    .dated ⟨1997, 3, 21⟩ (clock 20 30 0) (east 4 30 0),
    .dated ⟨1997, 9, 21⟩ (clock 19 30 0) (east 3 30 0),
    .dated ⟨1998, 3, 21⟩ (clock 20 30 0) (east 4 30 0),
    .dated ⟨1998, 9, 21⟩ (clock 19 30 0) (east 3 30 0),
    .dated ⟨1999, 3, 21⟩ (clock 20 30 0) (east 4 30 0),
    .dated ⟨1999, 9, 21⟩ (clock 19 30 0) (east 3 30 0),
    .dated ⟨2000, 3, 20⟩ (clock 20 30 0) (east 4 30 0),
    .dated ⟨2000, 9, 20⟩ (clock 19 30 0) (east 3 30 0),
    .dated ⟨2001, 3, 21⟩ (clock 20 30 0) (east 4 30 0),
    .dated ⟨2001, 9, 21⟩ (clock 19 30 0) (east 3 30 0),
    .dated ⟨2002, 3, 21⟩ (clock 20 30 0) (east 4 30 0),
    .dated ⟨2002, 9, 21⟩ (clock 19 30 0) (east 3 30 0),
    .dated ⟨2003, 3, 21⟩ (clock 20 30 0) (east 4 30 0),
    .dated ⟨2003, 9, 21⟩ (clock 19 30 0) (east 3 30 0),
    .dated ⟨2004, 3, 20⟩ (clock 20 30 0) (east 4 30 0),
    .dated ⟨2004, 9, 20⟩ (clock 19 30 0) (east 3 30 0),
    .dated ⟨2005, 3, 21⟩ (clock 20 30 0) (east 4 30 0),
    .dated ⟨2005, 9, 21⟩ (clock 19 30 0) (east 3 30 0),
    .dated ⟨2008, 3, 20⟩ (clock 20 30 0) (east 4 30 0),
    .dated ⟨2008, 9, 20⟩ (clock 19 30 0) (east 3 30 0),
    .dated ⟨2009, 3, 21⟩ (clock 20 30 0) (east 4 30 0),
    .dated ⟨2009, 9, 21⟩ (clock 19 30 0) (east 3 30 0),
    .dated ⟨2010, 3, 21⟩ (clock 20 30 0) (east 4 30 0),
    .dated ⟨2010, 9, 21⟩ (clock 19 30 0) (east 3 30 0),
    .dated ⟨2011, 3, 21⟩ (clock 20 30 0) (east 4 30 0),
    .dated ⟨2011, 9, 21⟩ (clock 19 30 0) (east 3 30 0),
    .dated ⟨2012, 3, 20⟩ (clock 20 30 0) (east 4 30 0),
    .dated ⟨2012, 9, 20⟩ (clock 19 30 0) (east 3 30 0),
    .dated ⟨2013, 3, 21⟩ (clock 20 30 0) (east 4 30 0),
    .dated ⟨2013, 9, 21⟩ (clock 19 30 0) (east 3 30 0),
    .dated ⟨2014, 3, 21⟩ (clock 20 30 0) (east 4 30 0),
    .dated ⟨2014, 9, 21⟩ (clock 19 30 0) (east 3 30 0),
    .dated ⟨2015, 3, 21⟩ (clock 20 30 0) (east 4 30 0),
    .dated ⟨2015, 9, 21⟩ (clock 19 30 0) (east 3 30 0),
    .dated ⟨2016, 3, 20⟩ (clock 20 30 0) (east 4 30 0),
    .dated ⟨2016, 9, 20⟩ (clock 19 30 0) (east 3 30 0),
    .dated ⟨2017, 3, 21⟩ (clock 20 30 0) (east 4 30 0),
    .dated ⟨2017, 9, 21⟩ (clock 19 30 0) (east 3 30 0),
    .dated ⟨2018, 3, 21⟩ (clock 20 30 0) (east 4 30 0),
    .dated ⟨2018, 9, 21⟩ (clock 19 30 0) (east 3 30 0),
    .dated ⟨2019, 3, 21⟩ (clock 20 30 0) (east 4 30 0),
    .dated ⟨2019, 9, 21⟩ (clock 19 30 0) (east 3 30 0),
    .dated ⟨2020, 3, 20⟩ (clock 20 30 0) (east 4 30 0),
    .dated ⟨2020, 9, 20⟩ (clock 19 30 0) (east 3 30 0),
    .dated ⟨2021, 3, 21⟩ (clock 20 30 0) (east 4 30 0),
    .dated ⟨2021, 9, 21⟩ (clock 19 30 0) (east 3 30 0),
    .dated ⟨2022, 3, 21⟩ (clock 20 30 0) (east 4 30 0),
    .dated ⟨2022, 9, 21⟩ (clock 19 30 0) (east 3 30 0)]

end BucketPlan.ZoneRecord
