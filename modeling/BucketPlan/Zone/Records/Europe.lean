import BucketPlan.Zone.Table

/-!
Records of the time zone database, release 2025b, up to the year 2099.
-/

namespace BucketPlan.ZoneRecord

/-- Europe/London. -/
def london : ZoneRecord where
  base := west 0 1 15
  lines := [
    .dated ⟨1847, 12, 1⟩ (clock 0 1 15) (east 0 0 0),
    .dated ⟨1916, 5, 21⟩ (clock 2 0 0) (east 1 0 0),
    .dated ⟨1916, 10, 1⟩ (clock 2 0 0) (east 0 0 0),
    .dated ⟨1917, 4, 8⟩ (clock 2 0 0) (east 1 0 0),
    .dated ⟨1917, 9, 17⟩ (clock 2 0 0) (east 0 0 0),
    .dated ⟨1918, 3, 24⟩ (clock 2 0 0) (east 1 0 0),
    .dated ⟨1918, 9, 30⟩ (clock 2 0 0) (east 0 0 0),
    .dated ⟨1919, 3, 30⟩ (clock 2 0 0) (east 1 0 0),
    .dated ⟨1919, 9, 29⟩ (clock 2 0 0) (east 0 0 0),
    .dated ⟨1920, 3, 28⟩ (clock 2 0 0) (east 1 0 0),
    .dated ⟨1920, 10, 25⟩ (clock 2 0 0) (east 0 0 0),
    .dated ⟨1921, 4, 3⟩ (clock 2 0 0) (east 1 0 0),
    .dated ⟨1921, 10, 3⟩ (clock 2 0 0) (east 0 0 0),
    .dated ⟨1922, 3, 26⟩ (clock 2 0 0) (east 1 0 0),
    .dated ⟨1922, 10, 8⟩ (clock 2 0 0) (east 0 0 0),
    .dated ⟨1923, 4, 22⟩ (clock 2 0 0) (east 1 0 0),
    .dated ⟨1923, 9, 16⟩ (clock 2 0 0) (east 0 0 0),
    .dated ⟨1924, 4, 13⟩ (clock 2 0 0) (east 1 0 0),
    .dated ⟨1924, 9, 21⟩ (clock 2 0 0) (east 0 0 0),
    .dated ⟨1925, 4, 19⟩ (clock 2 0 0) (east 1 0 0),
    .dated ⟨1925, 10, 4⟩ (clock 2 0 0) (east 0 0 0),
    .dated ⟨1926, 4, 18⟩ (clock 2 0 0) (east 1 0 0),
    .dated ⟨1926, 10, 3⟩ (clock 2 0 0) (east 0 0 0),
    .dated ⟨1927, 4, 10⟩ (clock 2 0 0) (east 1 0 0),
    .dated ⟨1927, 10, 2⟩ (clock 2 0 0) (east 0 0 0),
    .dated ⟨1928, 4, 22⟩ (clock 2 0 0) (east 1 0 0),
    .dated ⟨1928, 10, 7⟩ (clock 2 0 0) (east 0 0 0),
    .dated ⟨1929, 4, 21⟩ (clock 2 0 0) (east 1 0 0),
    .dated ⟨1929, 10, 6⟩ (clock 2 0 0) (east 0 0 0),
    .yearly 1930 1932 [⟨4, .onOrAfter .sunday 13, clock 2 0 0, east 0 0 0, east 1 0 0⟩,
      ⟨10, .onOrAfter .sunday 1, clock 3 0 0, east 1 0 0, east 0 0 0⟩],
    .dated ⟨1933, 4, 9⟩ (clock 2 0 0) (east 1 0 0),
    .dated ⟨1933, 10, 8⟩ (clock 2 0 0) (east 0 0 0),
    .dated ⟨1934, 4, 22⟩ (clock 2 0 0) (east 1 0 0),
    .dated ⟨1934, 10, 7⟩ (clock 2 0 0) (east 0 0 0),
    .yearly 1935 1937 [⟨4, .onOrAfter .sunday 13, clock 2 0 0, east 0 0 0, east 1 0 0⟩,
      ⟨10, .onOrAfter .sunday 1, clock 3 0 0, east 1 0 0, east 0 0 0⟩],
    .dated ⟨1938, 4, 10⟩ (clock 2 0 0) (east 1 0 0),
    .dated ⟨1938, 10, 2⟩ (clock 2 0 0) (east 0 0 0),
    .dated ⟨1939, 4, 16⟩ (clock 2 0 0) (east 1 0 0),
    .dated ⟨1939, 11, 19⟩ (clock 2 0 0) (east 0 0 0),
    .dated ⟨1940, 2, 25⟩ (clock 2 0 0) (east 1 0 0),
    .dated ⟨1941, 5, 4⟩ (clock 1 0 0) (east 2 0 0),
    .dated ⟨1941, 8, 10⟩ (clock 1 0 0) (east 1 0 0),
    .dated ⟨1942, 4, 5⟩ (clock 1 0 0) (east 2 0 0),
    .dated ⟨1942, 8, 9⟩ (clock 1 0 0) (east 1 0 0),
    .dated ⟨1943, 4, 4⟩ (clock 1 0 0) (east 2 0 0),
    .dated ⟨1943, 8, 15⟩ (clock 1 0 0) (east 1 0 0),
    .dated ⟨1944, 4, 2⟩ (clock 1 0 0) (east 2 0 0),
    .dated ⟨1944, 9, 17⟩ (clock 1 0 0) (east 1 0 0),
    .dated ⟨1945, 4, 2⟩ (clock 1 0 0) (east 2 0 0),
    .dated ⟨1945, 7, 15⟩ (clock 1 0 0) (east 1 0 0),
    .dated ⟨1945, 10, 7⟩ (clock 2 0 0) (east 0 0 0),
    .dated ⟨1946, 4, 14⟩ (clock 2 0 0) (east 1 0 0),
    .dated ⟨1946, 10, 6⟩ (clock 2 0 0) (east 0 0 0),
    .dated ⟨1947, 3, 16⟩ (clock 2 0 0) (east 1 0 0),
    .dated ⟨1947, 4, 13⟩ (clock 1 0 0) (east 2 0 0),
    .dated ⟨1947, 8, 10⟩ (clock 1 0 0) (east 1 0 0),
    .dated ⟨1947, 11, 2⟩ (clock 2 0 0) (east 0 0 0),
    .dated ⟨1948, 3, 14⟩ (clock 2 0 0) (east 1 0 0),
    .dated ⟨1948, 10, 31⟩ (clock 2 0 0) (east 0 0 0),
    .dated ⟨1949, 4, 3⟩ (clock 2 0 0) (east 1 0 0),
    .dated ⟨1949, 10, 30⟩ (clock 2 0 0) (east 0 0 0),
    .yearly 1950 1952 [⟨4, .onOrAfter .sunday 14, clock 2 0 0, east 0 0 0, east 1 0 0⟩,
      ⟨10, .onOrAfter .sunday 20, clock 3 0 0, east 1 0 0, east 0 0 0⟩],
    .dated ⟨1953, 4, 19⟩ (clock 2 0 0) (east 1 0 0),
    .dated ⟨1953, 10, 4⟩ (clock 2 0 0) (east 0 0 0),
    .dated ⟨1954, 4, 11⟩ (clock 2 0 0) (east 1 0 0),
    .dated ⟨1954, 10, 3⟩ (clock 2 0 0) (east 0 0 0),
    .dated ⟨1955, 4, 17⟩ (clock 2 0 0) (east 1 0 0),
    .dated ⟨1955, 10, 2⟩ (clock 2 0 0) (east 0 0 0),
    .dated ⟨1956, 4, 22⟩ (clock 2 0 0) (east 1 0 0),
    .dated ⟨1956, 10, 7⟩ (clock 2 0 0) (east 0 0 0),
    .yearly 1957 1959 [⟨4, .onOrAfter .sunday 14, clock 2 0 0, east 0 0 0, east 1 0 0⟩,
      ⟨10, .onOrAfter .sunday 1, clock 3 0 0, east 1 0 0, east 0 0 0⟩],
    .dated ⟨1960, 4, 10⟩ (clock 2 0 0) (east 1 0 0),
    .dated ⟨1960, 10, 2⟩ (clock 2 0 0) (east 0 0 0),
    .yearly 1961 1963 [⟨3, .last .sunday, clock 2 0 0, east 0 0 0, east 1 0 0⟩,
      ⟨10, .last .sunday, clock 3 0 0, east 1 0 0, east 0 0 0⟩],
    .yearly 1964 1967 [⟨3, .onOrAfter .sunday 16, clock 2 0 0, east 0 0 0, east 1 0 0⟩,
      ⟨10, .onOrAfter .sunday 23, clock 3 0 0, east 1 0 0, east 0 0 0⟩],
    .dated ⟨1968, 2, 18⟩ (clock 2 0 0) (east 1 0 0),
    .dated ⟨1971, 10, 31⟩ (clock 2 0 0) (east 0 0 0),
    .yearly 1972 1980 [⟨3, .onOrAfter .sunday 15, clock 2 0 0, east 0 0 0, east 1 0 0⟩,
      ⟨10, .onOrAfter .sunday 23, clock 3 0 0, east 1 0 0, east 0 0 0⟩],
    .yearly 1981 1994 [⟨3, .last .sunday, clock 1 0 0, east 0 0 0, east 1 0 0⟩,
      ⟨10, .onOrAfter .sunday 23, clock 2 0 0, east 1 0 0, east 0 0 0⟩],
    .yearly 1995 1998 [⟨3, .last .sunday, clock 1 0 0, east 0 0 0, east 1 0 0⟩,
      ⟨10, .onOrAfter .sunday 21, clock 2 0 0, east 1 0 0, east 0 0 0⟩],
    .yearly 1999 2099 [⟨3, .last .sunday, clock 1 0 0, east 0 0 0, east 1 0 0⟩,
      ⟨10, .last .sunday, clock 2 0 0, east 1 0 0, east 0 0 0⟩]]

/-- Europe/Berlin. -/
def berlin : ZoneRecord where
  base := east 0 53 28
  lines := [
    .dated ⟨1893, 3, 31⟩ (clock 23 6 32) (east 1 0 0),
    .dated ⟨1916, 4, 30⟩ (clock 22 0 0) (east 2 0 0),
    .dated ⟨1916, 9, 30⟩ (clock 23 0 0) (east 1 0 0),
    .dated ⟨1917, 4, 16⟩ (clock 1 0 0) (east 2 0 0),
    .dated ⟨1917, 9, 17⟩ (clock 1 0 0) (east 1 0 0),
    .dated ⟨1918, 4, 15⟩ (clock 1 0 0) (east 2 0 0),
    .dated ⟨1918, 9, 16⟩ (clock 1 0 0) (east 1 0 0),
    .dated ⟨1940, 4, 1⟩ (clock 1 0 0) (east 2 0 0),
    .dated ⟨1942, 11, 2⟩ (clock 1 0 0) (east 1 0 0),
    .dated ⟨1943, 3, 29⟩ (clock 1 0 0) (east 2 0 0),
    .dated ⟨1943, 10, 4⟩ (clock 1 0 0) (east 1 0 0),
    .dated ⟨1944, 4, 3⟩ (clock 1 0 0) (east 2 0 0),
    .dated ⟨1944, 10, 2⟩ (clock 1 0 0) (east 1 0 0),
    .dated ⟨1945, 4, 2⟩ (clock 1 0 0) (east 2 0 0),
    .dated ⟨1945, 5, 24⟩ (clock 0 0 0) (east 3 0 0),
    .dated ⟨1945, 9, 24⟩ (clock 0 0 0) (east 2 0 0),
    .dated ⟨1945, 11, 18⟩ (clock 1 0 0) (east 1 0 0),
    .dated ⟨1946, 4, 14⟩ (clock 1 0 0) (east 2 0 0),
    .dated ⟨1946, 10, 7⟩ (clock 1 0 0) (east 1 0 0),
    .dated ⟨1947, 4, 6⟩ (clock 2 0 0) (east 2 0 0),
    .dated ⟨1947, 5, 11⟩ (clock 1 0 0) (east 3 0 0),
    .dated ⟨1947, 6, 29⟩ (clock 0 0 0) (east 2 0 0),
    .dated ⟨1947, 10, 5⟩ (clock 1 0 0) (east 1 0 0),
    .dated ⟨1948, 4, 18⟩ (clock 1 0 0) (east 2 0 0),
    .dated ⟨1948, 10, 3⟩ (clock 1 0 0) (east 1 0 0),
    .dated ⟨1949, 4, 10⟩ (clock 1 0 0) (east 2 0 0),
    .dated ⟨1949, 10, 2⟩ (clock 1 0 0) (east 1 0 0),
    .dated ⟨1980, 4, 6⟩ (clock 1 0 0) (east 2 0 0),
    .dated ⟨1980, 9, 28⟩ (clock 1 0 0) (east 1 0 0),
    .yearly 1981 1995 [⟨3, .last .sunday, clock 2 0 0, east 1 0 0, east 2 0 0⟩,
      ⟨9, .last .sunday, clock 3 0 0, east 2 0 0, east 1 0 0⟩],
    .yearly 1996 2099 [⟨3, .last .sunday, clock 2 0 0, east 1 0 0, east 2 0 0⟩,
      ⟨10, .last .sunday, clock 3 0 0, east 2 0 0, east 1 0 0⟩]]

/-- Europe/Dublin. -/
def dublin : ZoneRecord where
  base := west 0 25 21
  lines := [
    .dated ⟨1916, 5, 21⟩ (clock 2 25 21) (east 0 34 39),
    .dated ⟨1916, 10, 1⟩ (clock 2 25 21) (east 0 0 0),
    .dated ⟨1917, 4, 8⟩ (clock 2 0 0) (east 1 0 0),
    .dated ⟨1917, 9, 17⟩ (clock 2 0 0) (east 0 0 0),
    .dated ⟨1918, 3, 24⟩ (clock 2 0 0) (east 1 0 0),
    .dated ⟨1918, 9, 30⟩ (clock 2 0 0) (east 0 0 0),
    .dated ⟨1919, 3, 30⟩ (clock 2 0 0) (east 1 0 0),
    .dated ⟨1919, 9, 29⟩ (clock 2 0 0) (east 0 0 0),
    .dated ⟨1920, 3, 28⟩ (clock 2 0 0) (east 1 0 0),
    .dated ⟨1920, 10, 25⟩ (clock 2 0 0) (east 0 0 0),
    .dated ⟨1921, 4, 3⟩ (clock 2 0 0) (east 1 0 0),
    .dated ⟨1921, 10, 3⟩ (clock 2 0 0) (east 0 0 0),
    .dated ⟨1922, 3, 26⟩ (clock 2 0 0) (east 1 0 0),
    .dated ⟨1922, 10, 8⟩ (clock 2 0 0) (east 0 0 0),
    .dated ⟨1923, 4, 22⟩ (clock 2 0 0) (east 1 0 0),
    .dated ⟨1923, 9, 16⟩ (clock 2 0 0) (east 0 0 0),
    .dated ⟨1924, 4, 13⟩ (clock 2 0 0) (east 1 0 0),
    .dated ⟨1924, 9, 21⟩ (clock 2 0 0) (east 0 0 0),
    .dated ⟨1925, 4, 19⟩ (clock 2 0 0) (east 1 0 0),
    .dated ⟨1925, 10, 4⟩ (clock 2 0 0) (east 0 0 0),
    .dated ⟨1926, 4, 18⟩ (clock 2 0 0) (east 1 0 0),
    .dated ⟨1926, 10, 3⟩ (clock 2 0 0) (east 0 0 0),
    .dated ⟨1927, 4, 10⟩ (clock 2 0 0) (east 1 0 0),
    .dated ⟨1927, 10, 2⟩ (clock 2 0 0) (east 0 0 0),
    .dated ⟨1928, 4, 22⟩ (clock 2 0 0) (east 1 0 0),
    .dated ⟨1928, 10, 7⟩ (clock 2 0 0) (east 0 0 0),
    .dated ⟨1929, 4, 21⟩ (clock 2 0 0) (east 1 0 0),
    .dated ⟨1929, 10, 6⟩ (clock 2 0 0) (east 0 0 0),
    .yearly 1930 1932 [⟨4, .onOrAfter .sunday 13, clock 2 0 0, east 0 0 0, east 1 0 0⟩,
      ⟨10, .onOrAfter .sunday 1, clock 3 0 0, east 1 0 0, east 0 0 0⟩],
    .dated ⟨1933, 4, 9⟩ (clock 2 0 0) (east 1 0 0),
    .dated ⟨1933, 10, 8⟩ (clock 2 0 0) (east 0 0 0),
    .dated ⟨1934, 4, 22⟩ (clock 2 0 0) (east 1 0 0),
    .dated ⟨1934, 10, 7⟩ (clock 2 0 0) (east 0 0 0),
    .yearly 1935 1937 [⟨4, .onOrAfter .sunday 13, clock 2 0 0, east 0 0 0, east 1 0 0⟩,
      ⟨10, .onOrAfter .sunday 1, clock 3 0 0, east 1 0 0, east 0 0 0⟩],
    .dated ⟨1938, 4, 10⟩ (clock 2 0 0) (east 1 0 0),
    .dated ⟨1938, 10, 2⟩ (clock 2 0 0) (east 0 0 0),
    .dated ⟨1939, 4, 16⟩ (clock 2 0 0) (east 1 0 0),
    .dated ⟨1939, 11, 19⟩ (clock 2 0 0) (east 0 0 0),
    .dated ⟨1940, 2, 25⟩ (clock 2 0 0) (east 1 0 0),
    .dated ⟨1946, 10, 6⟩ (clock 2 0 0) (east 0 0 0),
    .dated ⟨1947, 3, 16⟩ (clock 2 0 0) (east 1 0 0),
    .dated ⟨1947, 11, 2⟩ (clock 2 0 0) (east 0 0 0),
    .dated ⟨1948, 4, 18⟩ (clock 2 0 0) (east 1 0 0),
    .dated ⟨1948, 10, 31⟩ (clock 2 0 0) (east 0 0 0),
    .dated ⟨1949, 4, 3⟩ (clock 2 0 0) (east 1 0 0),
    .dated ⟨1949, 10, 30⟩ (clock 2 0 0) (east 0 0 0),
    .yearly 1950 1952 [⟨4, .onOrAfter .sunday 14, clock 2 0 0, east 0 0 0, east 1 0 0⟩,
      ⟨10, .onOrAfter .sunday 20, clock 3 0 0, east 1 0 0, east 0 0 0⟩],
    .dated ⟨1953, 4, 19⟩ (clock 2 0 0) (east 1 0 0),
    .dated ⟨1953, 10, 4⟩ (clock 2 0 0) (east 0 0 0),
    .dated ⟨1954, 4, 11⟩ (clock 2 0 0) (east 1 0 0),
    .dated ⟨1954, 10, 3⟩ (clock 2 0 0) (east 0 0 0),
    .dated ⟨1955, 4, 17⟩ (clock 2 0 0) (east 1 0 0),
    .dated ⟨1955, 10, 2⟩ (clock 2 0 0) (east 0 0 0),
    .dated ⟨1956, 4, 22⟩ (clock 2 0 0) (east 1 0 0),
    .dated ⟨1956, 10, 7⟩ (clock 2 0 0) (east 0 0 0),
    .yearly 1957 1959 [⟨4, .onOrAfter .sunday 14, clock 2 0 0, east 0 0 0, east 1 0 0⟩,
      ⟨10, .onOrAfter .sunday 1, clock 3 0 0, east 1 0 0, east 0 0 0⟩],
    .dated ⟨1960, 4, 10⟩ (clock 2 0 0) (east 1 0 0),
    .dated ⟨1960, 10, 2⟩ (clock 2 0 0) (east 0 0 0),
    .yearly 1961 1963 [⟨3, .last .sunday, clock 2 0 0, east 0 0 0, east 1 0 0⟩,
      ⟨10, .last .sunday, clock 3 0 0, east 1 0 0, east 0 0 0⟩],
    .yearly 1964 1967 [⟨3, .onOrAfter .sunday 16, clock 2 0 0, east 0 0 0, east 1 0 0⟩,
      ⟨10, .onOrAfter .sunday 23, clock 3 0 0, east 1 0 0, east 0 0 0⟩],
    .dated ⟨1968, 2, 18⟩ (clock 2 0 0) (east 1 0 0),
    .dated ⟨1971, 10, 31⟩ (clock 2 0 0) (east 0 0 0),
    .yearly 1972 1980 [⟨3, .onOrAfter .sunday 15, clock 2 0 0, east 0 0 0, east 1 0 0⟩,
      ⟨10, .onOrAfter .sunday 23, clock 3 0 0, east 1 0 0, east 0 0 0⟩],
    .yearly 1981 1994 [⟨3, .last .sunday, clock 1 0 0, east 0 0 0, east 1 0 0⟩,
      ⟨10, .onOrAfter .sunday 23, clock 2 0 0, east 1 0 0, east 0 0 0⟩],
    .yearly 1995 1998 [⟨3, .last .sunday, clock 1 0 0, east 0 0 0, east 1 0 0⟩,
      ⟨10, .onOrAfter .sunday 21, clock 2 0 0, east 1 0 0, east 0 0 0⟩],
    .yearly 1999 2099 [⟨3, .last .sunday, clock 1 0 0, east 0 0 0, east 1 0 0⟩,
      ⟨10, .last .sunday, clock 2 0 0, east 1 0 0, east 0 0 0⟩]]

end BucketPlan.ZoneRecord
