import BucketPlan.Bucket.Sequence
import Mathlib.Data.List.Nodup

namespace BucketPlan.BucketSequence

variable {α : Type} {t : Instant} {v : α} {rows more : List (Instant × α)}

/-! ## The last row at an instant -/

theorem lastRow?_eq_some_iff :
    lastRow? t rows = some v ↔
      ∃ before after, rows = before ++ (t, v) :: after ∧ ∀ row ∈ after, row.1 ≠ t := by
  simp only [lastRow?, Option.map_eq_some_iff, List.find?_eq_some_iff_append, decide_eq_true_eq, Bool.not_eq_true',
    decide_eq_false_iff_not]
  constructor
  · rintro ⟨⟨_, _⟩, ⟨rfl, after, before, split, others⟩, rfl⟩
    refine ⟨before.reverse, after.reverse, ?_, fun row member => others row (List.mem_reverse.1 member)⟩
    rw [← List.reverse_reverse rows, split]
    simp
  · rintro ⟨before, after, rfl, others⟩
    refine ⟨(t, v), ⟨rfl, after.reverse, before.reverse, by simp, ?_⟩, rfl⟩
    exact fun row member => others row (List.mem_reverse.1 member)

theorem lastRow?_eq_none_iff : lastRow? t rows = none ↔ ∀ row ∈ rows, row.1 ≠ t := by
  simp [lastRow?]

theorem lastRow?_filter {keep : Instant × α → Bool} (kept : ∀ row, row.1 = t → keep row = true) :
    lastRow? t (rows.filter keep) = lastRow? t rows := by
  have same : ∀ row, decide (keep row = true ∧ decide (row.1 = t) = true) = decide (row.1 = t) := by
    intro row
    by_cases here : row.1 = t
    · simp only [kept row here, here, decide_true, and_true]
    · simp only [here, decide_false, Bool.false_eq_true, and_false]
  simp only [lastRow?, ← List.filter_reverse, List.find?_filter, same]

theorem lastRow?_eq_some_of_mem (once : (rows.map (·.1)).Nodup) : lastRow? t rows = some v ↔ (t, v) ∈ rows := by
  constructor
  · intro found
    obtain ⟨before, after, rfl, _⟩ := lastRow?_eq_some_iff.1 found
    exact List.mem_append_right before List.mem_cons_self
  · intro member
    obtain ⟨before, after, rfl⟩ := List.append_of_mem member
    rw [List.map_append, List.map_cons] at once
    have apart := (List.nodup_cons.1 (List.nodup_append.1 once).2.1).1
    refine lastRow?_eq_some_iff.2 ⟨before, after, rfl, ?_⟩
    rintro row behind rfl
    exact apart (List.mem_map.2 ⟨row, behind, rfl⟩)

theorem lastRow?_perm (once : (rows.map (·.1)).Nodup) (perm : rows.Perm more) :
    lastRow? t rows = lastRow? t more := by
  apply Option.ext
  intro v
  rw [lastRow?_eq_some_of_mem once, lastRow?_eq_some_of_mem ((perm.map _).nodup once), perm.mem_iff]

/-! ## Values over starts -/

/-- Distinct starts do not take rows from each other. -/
theorem fillStarts_eq_map (missing : α) {starts : List Instant} (distinct : starts.Nodup)
    (rows : List (Instant × α)) :
    fillStarts missing starts rows = starts.map fun t => (lastRow? t rows).getD missing := by
  induction starts generalizing rows with
  | nil => rfl
  | cons t starts ih =>
    obtain ⟨apart, distinct⟩ := List.nodup_cons.1 distinct
    rw [fillStarts, ih distinct, List.map_cons]
    congr 1
    apply List.map_congr_left
    intro u member
    rw [lastRow?_filter]
    rintro row rfl
    exact decide_eq_true (ne_of_mem_of_not_mem member apart)

/-- The values are laid out over the starts: in their order, at each start the value of the
    last row there, or `missing` where there is none. -/
structure Lays (s : BucketSequence) (rows : List (Instant × α)) (missing : α) (values : List α) : Prop where
  length : values.length = s.starts.length
  last {i : Nat} {t : Instant} {v : α} {before after : List (Instant × α)} (start : s.starts[i]? = some t)
    (row : rows = before ++ (t, v) :: after) (others : ∀ row ∈ after, row.1 ≠ t) : values[i]? = some v
  absent {i : Nat} {t : Instant} (start : s.starts[i]? = some t) (others : ∀ row ∈ rows, row.1 ≠ t) :
    values[i]? = some missing

section Distinct
variable {s : BucketSequence} (distinct : s.starts.Nodup) (missing : α)
include distinct

theorem fill_eq_map (rows : List (Instant × α)) :
    s.fill rows missing = s.starts.map fun t => (lastRow? t rows).getD missing :=
  fillStarts_eq_map missing distinct rows

/-- Every row is filled in where it belongs. -/
theorem fill_lays (rows : List (Instant × α)) : s.Lays rows missing (s.fill rows missing) := by
  rw [fill_eq_map distinct]
  constructor
  · exact List.length_map _
  · intro i t v before after start row others
    rw [List.getElem?_map, start, Option.map_some, lastRow?_eq_some_iff.2 ⟨before, after, row, others⟩,
      Option.getD_some]
  · intro i t start others
    rw [List.getElem?_map, start, Option.map_some, lastRow?_eq_none_iff.2 others, Option.getD_none]

/-- Rows that start no bucket do not matter. -/
theorem fill_congr (same : rows.filter (·.1 ∈ s.starts) = more.filter (·.1 ∈ s.starts)) :
    s.fill rows missing = s.fill more missing := by
  rw [fill_eq_map distinct, fill_eq_map distinct]
  apply List.map_congr_left
  intro t member
  have kept : ∀ row : Instant × α, row.1 = t → decide (row.1 ∈ s.starts) = true := by
    rintro row rfl
    exact decide_eq_true member
  rw [← lastRow?_filter kept, same, lastRow?_filter kept]

/-- Rows at distinct instants may come in any order. -/
theorem fill_perm (once : (rows.map (·.1)).Nodup) (perm : rows.Perm more) :
    s.fill rows missing = s.fill more missing := by
  rw [fill_eq_map distinct, fill_eq_map distinct]
  apply List.map_congr_left
  intro t _
  rw [lastRow?_perm once perm]

end Distinct

/-- Rows are laid out over the starts as they belong, and only as they belong. -/
structure Places (s : BucketSequence) {α : Type} (missing : α) : Prop where
  lays (rows : List (Instant × α)) : s.Lays rows missing (s.fill rows missing)
  /-- Rows that start no bucket do not matter. -/
  elsewhere {rows more : List (Instant × α)} (same : rows.filter (·.1 ∈ s.starts) = more.filter (·.1 ∈ s.starts)) :
    s.fill rows missing = s.fill more missing
  /-- Rows at distinct instants may come in any order. -/
  order {rows more : List (Instant × α)} (once : (rows.map (·.1)).Nodup) (perm : rows.Perm more) :
    s.fill rows missing = s.fill more missing

theorem places {s : BucketSequence} (distinct : s.starts.Nodup) (missing : α) : s.Places missing where
  lays := fill_lays distinct missing
  elsewhere := fill_congr distinct missing
  order := fill_perm distinct missing

end BucketPlan.BucketSequence
