import BucketPlan.Date.Text
import BucketPlan.Proofs.Date.Months
import BucketPlan.Proofs.Text.Digits
import Mathlib.Tactic.SplitIfs

namespace BucketPlan

/-! ## Parts -/

theorem trimStart_padded {width n : Nat} (positive : 0 < width) (rest : List Char) :
    Blank.trimStart (Numeral.padded width n ++ rest) = Numeral.padded width n ++ rest := by
  obtain ⟨c, cs, written, digit⟩ := Numeral.exists_padded_cons (n := n) positive
  rw [written]
  exact Blank.trimStart_of_head (Blank.isBlank_of_isDigit digit)

theorem shortNumber?_padded {n : Nat} (fits : n < 100) (rest : List Char) :
    shortNumber? (Numeral.padded 2 n ++ rest) = some (n, rest) := by
  have length : (Numeral.padded 2 n).length = 2 := Numeral.length_padded (by decide) fits
  rw [shortNumber?, trimStart_padded (by decide), Numeral.number?_padded (by decide) (by omega) (.inl length)]

theorem signedYear?_of_digit {c : Char} {cs : List Char} (digit : c.isDigit = true) :
    signedYear? (c :: cs) = (Numeral.number? 1 4 (c :: cs)).map fun r => ((r.1 : Int), r.2) := by
  have minus : c ≠ '-' := by rintro rfl; exact absurd digit (by decide)
  have plus : c ≠ '+' := by rintro rfl; exact absurd digit (by decide)
  rw [signedYear?, Blank.trimStart_of_head (Blank.isBlank_of_isDigit digit)]
  split
  · next same => exact absurd (List.cons.inj same).1 minus
  · next same => exact absurd (List.cons.inj same).1 plus
  · rfl

/-- A year is read back from before a hyphen, with its sign or without one. -/
theorem signedYear?_yearChars (y : Int) (rest : List Char) :
    signedYear? (yearChars y ++ '-' :: rest) = some (y, '-' :: rest) := by
  have long : Numeral.longNumber? (Numeral.padded 4 y.natAbs ++ '-' :: rest) = some (y.natAbs, '-' :: rest) := by
    refine Numeral.number?_padded (by decide) (by simp) (.inr ?_)
    simp only [List.head?_cons, Option.mem_def, Option.some.injEq, forall_eq']
    rfl
  unfold yearChars
  simp only
  split_ifs with negative plain
  · have stays : Blank.trimStart ('-' :: (Numeral.padded 4 y.natAbs ++ '-' :: rest)) =
        '-' :: (Numeral.padded 4 y.natAbs ++ '-' :: rest) := Blank.trimStart_of_head (by decide)
    simp only [signedYear?, List.cons_append, stays, long, Option.map_some, Option.some.injEq, Prod.mk.injEq,
      and_true]
    omega
  · have four : (Numeral.padded 4 y.natAbs).length = 4 := Numeral.length_padded (by decide) (by omega)
    have read : Numeral.number? 1 4 (Numeral.padded 4 y.natAbs ++ '-' :: rest) = some (y.natAbs, '-' :: rest) :=
      Numeral.number?_padded (by decide) (Nat.le_of_eq four) (.inl four)
    obtain ⟨c, cs, written, digit⟩ : ∃ c cs, Numeral.padded 4 y.natAbs = c :: cs ∧ c.isDigit = true :=
      Numeral.exists_padded_cons (by decide)
    rw [written, List.cons_append] at read
    rw [written, List.cons_append, signedYear?_of_digit digit, read, Option.map_some]
    simp only [Option.some.injEq, Prod.mk.injEq, and_true]
    omega
  · have stays : Blank.trimStart ('+' :: (Numeral.padded 4 y.natAbs ++ '-' :: rest)) =
        '+' :: (Numeral.padded 4 y.natAbs ++ '-' :: rest) := Blank.trimStart_of_head (by decide)
    simp only [signedYear?, List.cons_append, stays, long, Option.map_some, Option.some.injEq, Prod.mk.injEq,
      and_true]
    omega

/-- A written date is read back as its year, month and day, whatever follows it. Nothing is
    skipped before its hyphens. -/
theorem Civil.read_chars_append {skip : List Char → List Char} (still : ∀ cs, skip ('-' :: cs) = '-' :: cs) {c : Civil}
    (month : c.month < 100) (day : c.day < 100) (rest : List Char) :
    civil? skip (c.chars ++ rest) = some (c, rest) := by
  simp only [civil?, chars, monthChars, List.append_assoc, List.cons_append, signedYear?_yearChars, still, expect?,
    if_true, Option.bind_eq_bind, Option.bind_some, shortNumber?_padded month, shortNumber?_padded day]
  rfl

theorem Civil.read_chars {c : Civil} (month : c.month < 100) (day : c.day < 100) :
    civil? id c.chars = some (c, []) := by
  have reads : civil? id (c.chars ++ []) = some (c, []) := read_chars_append (fun _ => rfl) month day []
  rwa [List.append_nil] at reads

theorem Civil.monthChars_injective {c e : Civil} (monthC : c.month < 100) (monthE : e.month < 100)
    (same : c.monthChars = e.monthChars) : c.year = e.year ∧ c.month = e.month := by
  -- Both months are read back from their first days.
  have first : (Civil.mk c.year c.month 1).chars = (Civil.mk e.year e.month 1).chars := by
    simp only [chars, monthChars] at same ⊢
    rw [same]
  have readC := read_chars (c := ⟨c.year, c.month, 1⟩) monthC (show 1 < 100 by decide)
  rw [first, read_chars (c := ⟨e.year, e.month, 1⟩) monthE (show 1 < 100 by decide)] at readC
  simp only [Option.some.injEq, Prod.mk.injEq, mk.injEq, and_true] at readC
  exact ⟨readC.1.symm, readC.2.symm⟩

namespace Date

/-- The numbers of a date have two digits at most, its year aside. -/
theorem civil_small (d : Date) : d.civil.month < 100 ∧ d.civil.day < 100 := by
  obtain ⟨_, months, _, days⟩ := Civil.ofDay_valid d.day
  have length := (daysInMonth_bounds (Civil.ofDay d.day).year (Civil.ofDay d.day).month).2
  rw [civil]
  omega

theorem ofCivil?_civil (d : Date) : ofCivil? d.civil = some d := by
  have valid : d.civil.Valid := Civil.ofDay_valid d.day
  rw [ofCivil?, if_pos valid, civil, Civil.dayNumber_ofDay, ofDay?_day]

/-- Every date is read as it was written. -/
theorem read?_chars (d : Date) : read? d.chars = some d := by
  have reads : civil? id d.chars = some (d.civil, []) := Civil.read_chars d.civil_small.1 d.civil_small.2
  rw [read?, reads]
  exact d.ofCivil?_civil

theorem text_injective {d e : Date} (same : d.text = e.text) : d = e := by
  have reads := d.read?_chars
  rw [String.ofList_injective same, e.read?_chars] at reads
  exact (Option.some.inj reads).symm

theorem isBlank_of_mem_chars {d : Date} {c : Char} (member : c ∈ d.chars) : Blank.isBlank c = false := by
  have years : c ∈ yearChars d.civil.year → Blank.isBlank c = false := by
    intro member
    unfold yearChars at member
    simp only at member
    split_ifs at member
    · rcases List.mem_cons.1 member with rfl | member
      · decide
      · exact Numeral.isBlank_of_mem_padded member
    · exact Numeral.isBlank_of_mem_padded member
    · rcases List.mem_cons.1 member with rfl | member
      · decide
      · exact Numeral.isBlank_of_mem_padded member
  simp only [chars, Civil.chars, Civil.monthChars, List.append_assoc, List.cons_append, List.mem_append,
    List.mem_cons] at member
  rcases member with member | rfl | member | rfl | member
  · exact years member
  · decide
  · exact Numeral.isBlank_of_mem_padded member
  · decide
  · exact Numeral.isBlank_of_mem_padded member

/-- A written date has no blanks around it. -/
theorem trim_chars (d : Date) : Blank.trim d.chars = d.chars := Blank.trim_of_none fun _ => isBlank_of_mem_chars

end Date

end BucketPlan
