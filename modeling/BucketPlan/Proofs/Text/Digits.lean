import BucketPlan.Text.Blank
import BucketPlan.Text.Numeral
import Mathlib.Algebra.Group.Nat.Defs
import Mathlib.Data.List.TakeWhile

/-!
What a written text is made of. Blanks around a text come off once and for all
(`Blank.trim_surrounded`, `Blank.trim_trim`). A run of digits is read up to where it ends
(`Numeral.number?_append`), and nothing else is read as a number (`Numeral.number?_eq_some`). Among
runs of one length the order of texts is that of the numbers (`Numeral.lt_iff_value_lt`), so texts
that are built of numbers of fixed width are in order as their numbers are, one after the other
(`Numeral.padded_append_lt_iff`).
-/

namespace BucketPlan

/-! ## Blanks -/

namespace Blank

theorem isBlank_of_isDigit {c : Char} (digit : c.isDigit = true) : isBlank c = false := by
  simp only [Char.isDigit, Bool.and_eq_true, decide_eq_true_eq, UInt32.le_iff_toNat_le] at digit
  have low : 48 ≤ c.toNat := digit.1
  have high : c.toNat ≤ 57 := digit.2
  simp only [isBlank, ranges, List.any_cons, List.any_nil, Bool.or_false, Bool.or_eq_false_iff,
    Bool.and_eq_false_iff, decide_eq_false_iff_not]
  omega

/-- A text without blanks stays as it is. -/
theorem trim_of_none {cs : List Char} (none : ∀ c ∈ cs, isBlank c = false) : trim cs = cs := by
  have start : ∀ ds : List Char, (∀ c ∈ ds, isBlank c = false) → ds.dropWhile isBlank = ds := by
    intro ds clear
    cases ds with
    | nil => rfl
    | cons d ds => exact trimStart_of_head (clear d List.mem_cons_self)
  rw [trim, trimStart, start cs none, trimEnd, start cs.reverse, List.reverse_reverse]
  intro c member
  exact none c (List.mem_reverse.1 member)

/-- Blanks around a text do not count. -/
theorem trim_surrounded {before after : List Char} (blankBefore : ∀ c ∈ before, isBlank c = true)
    (blankAfter : ∀ c ∈ after, isBlank c = true) (cs : List Char) : trim (before ++ cs ++ after) = trim cs := by
  have alone : after.dropWhile isBlank = [] := List.dropWhile_eq_nil_iff.2 blankAfter
  rw [trim, trim, List.append_assoc, trimStart_append blankBefore]
  unfold trimStart
  rw [List.dropWhile_append]
  split
  · next blank =>
    rw [alone, List.isEmpty_iff.1 blank]
  · exact trimEnd_append blankAfter

theorem exists_surrounded (cs : List Char) :
    ∃ before after, (∀ c ∈ before, isBlank c = true) ∧ (∀ c ∈ after, isBlank c = true) ∧
      cs = before ++ trim cs ++ after := by
  refine ⟨cs.takeWhile isBlank, ((cs.dropWhile isBlank).reverse.takeWhile isBlank).reverse,
    List.all_eq_true.1 List.all_takeWhile, ?_, ?_⟩
  · intro c member
    exact List.all_eq_true.1 List.all_takeWhile c (List.mem_reverse.1 member)
  · rw [trim, trimEnd, trimStart, List.append_assoc, ← List.reverse_append, List.takeWhile_append_dropWhile,
      List.reverse_reverse, List.takeWhile_append_dropWhile]

/-- Once off, there are no blanks left to come off. -/
theorem trim_trim (cs : List Char) : trim (trim cs) = trim cs := by
  obtain ⟨before, after, blankBefore, blankAfter, parts⟩ := exists_surrounded cs
  have same := trim_surrounded blankBefore blankAfter (trim cs)
  rw [← parts] at same
  exact same.symm

end Blank

namespace Numeral

/-! ## Runs of digits -/

/-- A run of digits is taken as a whole when it is as long as it may be, or when
    something else than a digit follows. -/
theorem digits?_append {least most : Nat} {ds rest : List Char} (digits : ∀ c ∈ ds, c.isDigit = true)
    (low : least ≤ ds.length) (high : ds.length ≤ most)
    (ends : ds.length = most ∨ ∀ c ∈ rest.head?, c.isDigit = false) :
    digits? least most (ds ++ rest) = some (ds, rest) := by
  have rest_none : (rest.take (most - ds.length)).takeWhile Char.isDigit = [] := by
    rcases ends with full | other
    · rw [full, Nat.sub_self, List.take_zero, List.takeWhile_nil]
    · cases rest with
      | nil => simp
      | cons c rest =>
        have stops : c.isDigit = false := other c rfl
        cases most - ds.length with
        | zero => simp
        | succ k => simp [stops]
  have run : ((ds ++ rest).take most).takeWhile Char.isDigit = ds := by
    rw [List.take_append, List.take_of_length_le high, List.takeWhile_append_of_pos digits, rest_none,
      List.append_nil]
  rw [digits?]
  simp only [run, Nat.not_lt.2 low, if_false, List.drop_left]

/-- Such a run of digits is read as its number. -/
theorem number?_append {least most : Nat} {ds rest : List Char} (digits : ∀ c ∈ ds, c.isDigit = true)
    (low : least ≤ ds.length) (high : ds.length ≤ most)
    (ends : ds.length = most ∨ ∀ c ∈ rest.head?, c.isDigit = false) :
    number? least most (ds ++ rest) = some (value ds, rest) := by
  rw [number?, digits?_append digits low high ends, Option.map_some]

/-- What is read as a number is a run of digits at the front. -/
theorem number?_eq_some {least most n : Nat} {cs rest : List Char} (run : number? least most cs = some (n, rest)) :
    ∃ ds, cs = ds ++ rest ∧ n = value ds ∧ (∀ c ∈ ds, c.isDigit = true) ∧ least ≤ ds.length ∧ ds.length ≤ most := by
  simp only [number?, digits?, Option.map_eq_some_iff] at run
  obtain ⟨⟨ds, _⟩, found, same⟩ := run
  split at found
  · cases found
  · next long =>
    cases found
    cases same
    have front : (cs.take most).takeWhile Char.isDigit <+: cs := (List.takeWhile_prefix _).trans (List.take_prefix _ _)
    have short := Nat.le_trans (List.takeWhile_prefix Char.isDigit : _ <+: cs.take most).length_le
      (List.length_take_le ..)
    have parts := List.take_append_drop ((cs.take most).takeWhile Char.isDigit).length cs
    rw [← List.prefix_iff_eq_take.1 front] at parts
    exact ⟨_, parts.symm, rfl, List.all_eq_true.1 List.all_takeWhile, Nat.not_lt.1 long, short⟩

/-! ## Values -/

theorem value_cons (c : Char) (cs : List Char) :
    value (c :: cs) = (c.toNat - '0'.toNat) * 10 ^ cs.length + value cs := by
  unfold value
  rw [Nat.ofDigitChars_cons, Nat.ofDigitChars_eq_ofDigitChars_zero, Nat.mul_zero, Nat.zero_add, Nat.mul_comm]

theorem digit_le {c : Char} (digit : c.isDigit = true) : '0'.toNat ≤ c.toNat ∧ c.toNat ≤ '0'.toNat + 9 := by
  have zero : '0'.toNat = 48 := rfl
  have nine : '9'.toNat = 57 := rfl
  have bounds := Char.isDigit_iff_toNat.1 digit
  omega

/-- A run of digits stands for a number below the power of ten that is as long. -/
theorem value_lt {digits : List Char} (each : ∀ c ∈ digits, c.isDigit = true) : value digits < 10 ^ digits.length := by
  induction digits with
  | nil => decide
  | cons c rest ih =>
    have below := ih fun x member => each x (List.mem_cons_of_mem c member)
    have digit := digit_le (each c List.mem_cons_self)
    have scaled := Nat.mul_le_mul_right (10 ^ rest.length) (show c.toNat - '0'.toNat ≤ 9 by omega)
    rw [value_cons, List.length_cons, Nat.pow_succ]
    omega

theorem number?_lt {least most n : Nat} {cs rest : List Char} (run : number? least most cs = some (n, rest)) :
    n < 10 ^ most := by
  obtain ⟨ds, _, rfl, digits, _, short⟩ := number?_eq_some run
  exact Nat.lt_of_lt_of_le (value_lt digits) (Nat.pow_le_pow_right (by decide) short)

/-- Of two numbers that are equally long the smaller one stands first. -/
theorem lt_iff_value_lt {as bs : List Char} (digitsA : ∀ c ∈ as, c.isDigit = true)
    (digitsB : ∀ c ∈ bs, c.isDigit = true) (same : as.length = bs.length) : as < bs ↔ value as < value bs := by
  induction as generalizing bs with
  | nil =>
    cases List.length_eq_zero_iff.1 same.symm
    simp
  | cons a as ih =>
    cases bs with
    | nil => cases same
    | cons b bs =>
      have length : as.length = bs.length := Nat.succ.inj same
      have restA := fun x member => digitsA x (List.mem_cons_of_mem a member)
      have restB := fun x member => digitsB x (List.mem_cons_of_mem b member)
      have belowA := value_lt restA
      have belowB := value_lt restB
      have headA := digit_le (digitsA a List.mem_cons_self)
      have headB := digit_le (digitsB b List.mem_cons_self)
      have order : a < b ↔ a.toNat < b.toNat := UInt32.lt_iff_toNat_lt
      rw [List.cons_lt_cons_iff, ih restA restB length, value_cons, value_cons, length, order, ← Char.toNat_inj]
      rw [length] at belowA
      -- A smaller digit is worth more than all that can follow it.
      rcases Nat.lt_trichotomy a.toNat b.toNat with less | equal | more
      · have worth := Nat.mul_le_mul_right (10 ^ bs.length)
          (show a.toNat - '0'.toNat + 1 ≤ b.toNat - '0'.toNat by omega)
        rw [Nat.add_mul, Nat.one_mul] at worth
        omega
      · rw [equal]
        omega
      · have worth := Nat.mul_le_mul_right (10 ^ bs.length)
          (show b.toNat - '0'.toNat + 1 ≤ a.toNat - '0'.toNat by omega)
        rw [Nat.add_mul, Nat.one_mul] at worth
        omega

/-! ## Numbers of a width -/

theorem length_padded {width n : Nat} (positive : 0 < width) (fits : n < 10 ^ width) :
    (padded width n).length = width := by
  have short := (Nat.length_toDigits_le_iff (b := 10) (by decide) positive).2 fits
  simp only [padded, List.length_append, List.length_replicate]
  omega

theorem padded_injective {width m n : Nat} (same : padded width m = padded width n) : m = n := by
  rw [← value_padded width m, same, value_padded]

theorem number?_padded {least most width n : Nat} {rest : List Char} (low : least ≤ width)
    (high : (padded width n).length ≤ most)
    (ends : (padded width n).length = most ∨ ∀ c ∈ rest.head?, c.isDigit = false) :
    number? least most (padded width n ++ rest) = some (n, rest) := by
  rw [number?_append (fun _ member => isDigit_of_mem_padded member)
    (Nat.le_trans low (le_length_padded width n)) high ends, value_padded]

theorem number?_full (width : Nat) {n : Nat} (positive : 0 < width) (fits : n < 10 ^ width) (rest : List Char) :
    number? width width (padded width n ++ rest) = some (n, rest) := by
  have length := length_padded positive fits
  exact number?_padded (Nat.le_refl width) (by omega) (.inl length)

theorem exists_padded_cons {width n : Nat} (positive : 0 < width) :
    ∃ c cs, padded width n = c :: cs ∧ c.isDigit = true := by
  have long := le_length_padded width n
  cases written : padded width n with
  | nil =>
    rw [written] at long
    exact absurd long (Nat.not_le.2 positive)
  | cons c cs =>
    have member : c ∈ padded width n := by
      rw [written]
      exact List.mem_cons_self
    exact ⟨c, cs, rfl, isDigit_of_mem_padded member⟩

theorem isBlank_of_mem_padded {width n : Nat} {c : Char} (member : c ∈ padded width n) : Blank.isBlank c = false :=
  Blank.isBlank_of_isDigit (isDigit_of_mem_padded member)

/-! ## Order -/

theorem append_lt_append_iff {as bs : List Char} (same : as.length = bs.length) (xs ys : List Char) :
    as ++ xs < bs ++ ys ↔ as < bs ∨ as = bs ∧ xs < ys := by
  induction as generalizing bs with
  | nil =>
    cases List.length_eq_zero_iff.1 same.symm
    simp
  | cons a as ih =>
    cases bs with
    | nil => cases same
    | cons b bs =>
      simp only [List.cons_append, List.cons_lt_cons_iff, ih (Nat.succ.inj same), List.cons.injEq, and_or_left,
        and_assoc, or_assoc]

/-- Behind numbers of one width the rest of a text decides only between equal numbers. -/
theorem padded_append_lt_iff (width : Nat) {m n : Nat} (positive : 0 < width) (fitsM : m < 10 ^ width)
    (fitsN : n < 10 ^ width) (xs ys : List Char) :
    padded width m ++ xs < padded width n ++ ys ↔ m < n ∨ m = n ∧ xs < ys := by
  have same : (padded width m).length = (padded width n).length := by
    rw [length_padded positive fitsM, length_padded positive fitsN]
  rw [append_lt_append_iff same, lt_iff_value_lt (fun _ => isDigit_of_mem_padded) (fun _ => isDigit_of_mem_padded) same,
    value_padded, value_padded]
  exact or_congr_right (and_congr_left fun _ => ⟨padded_injective, fun equal => by rw [equal]⟩)

theorem padded_lt_iff (width : Nat) {m n : Nat} (positive : 0 < width) (fitsM : m < 10 ^ width)
    (fitsN : n < 10 ^ width) : padded width m < padded width n ↔ m < n := by
  have order := padded_append_lt_iff width positive fitsM fitsN [] []
  simpa using order

end Numeral

end BucketPlan
