import BucketPlan.Json.Draft
import BucketPlan.Proofs.Text.Utf8
import Mathlib.Tactic.SplitIfs

namespace BucketPlan

/-! ## Plain bytes -/

namespace Draft

/-- A byte that stands for itself inside a quoted text. -/
def Plain (b : UInt8) : Prop := b ≠ 0x22 ∧ b ≠ 0x5C ∧ ¬ b < 0x20

theorem plain_ofNat {n : Nat} (bound : n < 256) (low : 32 ≤ n) (quote : n ≠ 34) (backslash : n ≠ 92) :
    Plain (UInt8.ofNat n) := by
  have number : (UInt8.ofNat n).toNat = n := UInt8.toNat_ofNat_of_lt' bound
  refine ⟨?_, ?_, ?_⟩
  · rw [ne_eq, ← UInt8.toNat_inj, number]
    exact quote
  · rw [ne_eq, ← UInt8.toNat_inj, number]
    exact backslash
  · rw [UInt8.lt_iff_toNat_lt, number]
    exact Nat.not_lt.2 low

theorem plain_of_mem {c : Char} (quote : c ≠ '"') (backslash : c ≠ '\\') (printable : 32 ≤ c.toNat) {b : UInt8}
    (member : b ∈ String.utf8EncodeChar c) : Plain b := by
  have code : c.toNat = c.val.toNat := rfl
  have notQuote : c.toNat ≠ 34 := fun same => quote (Char.toNat_inj.1 same)
  have notBackslash : c.toNat ≠ 92 := fun same => backslash (Char.toNat_inj.1 same)
  -- One byte is the code point itself; where there are more, all of them are 128 at least.
  unfold String.utf8EncodeChar at member
  simp only at member
  split_ifs at member with one two three
  · obtain rfl := List.mem_singleton.1 member
    exact plain_ofNat (by omega) (by omega) (by omega) (by omega)
  · simp only [List.mem_cons, List.not_mem_nil, or_false] at member
    rcases member with rfl | rfl
    all_goals exact plain_ofNat (by omega) (by omega) (by omega) (by omega)
  · simp only [List.mem_cons, List.not_mem_nil, or_false] at member
    rcases member with rfl | rfl | rfl
    all_goals exact plain_ofNat (by omega) (by omega) (by omega) (by omega)
  · simp only [List.mem_cons, List.not_mem_nil, or_false] at member
    rcases member with rfl | rfl | rfl | rfl
    all_goals exact plain_ofNat (by omega) (by omega) (by omega) (by omega)

/-! ## Behind the quote -/

theorem string?_plain (bytes seen rest : List UInt8) (plain : ∀ b ∈ bytes, Plain b) :
    string? (some seen) (bytes ++ rest) = string? (some (bytes.reverse ++ seen)) rest := by
  induction bytes generalizing seen with
  | nil => rfl
  | cons b bytes ih =>
    obtain ⟨quote, backslash, control⟩ := plain b List.mem_cons_self
    rw [List.cons_append, string?, if_neg quote, if_neg backslash, if_neg control, Option.map_some,
      ih (b :: seen) fun x member => plain x (List.mem_cons_of_mem b member), List.reverse_cons, List.append_assoc,
      List.singleton_append]

theorem string?_escaped (escape : List UInt8) {more meant : List UInt8}
    (reads : escaped? (escape ++ more) = some (some meant, more)) (seen : List UInt8) :
    string? (some seen) (0x5C :: (escape ++ more)) = string? (some (meant ++ seen)) more := by
  rw [string?, if_neg (by decide), if_pos rfl]
  split
  · next broken =>
    rw [reads] at broken
    cases broken
  · next same =>
    rw [reads] at same
    cases same
    rfl

/-- The byte of a hexadecimal digit. -/
def hexByte (n : Nat) : UInt8 := UInt8.ofNat (Json.hexDigit n).toNat

theorem bytes_hexDigit (n : Nat) : String.utf8EncodeChar (Json.hexDigit n) = [hexByte n] := by
  have each : ∀ k < 16, String.utf8EncodeChar (Nat.digitChar k) = [UInt8.ofNat (Nat.digitChar k).toNat] := by decide
  exact each (n % 16) (Nat.mod_lt n (by decide))

theorem hexValue?_hexByte (n : Nat) : hexValue? (hexByte n) = some (n % 16) := by
  have each : ∀ k < 16, hexValue? (UInt8.ofNat (Nat.digitChar k).toNat) = some k := by decide
  exact each (n % 16) (Nat.mod_lt n (by decide))

theorem bytes_control (n : Nat) :
    ['\\', 'u', '0', '0', Json.hexDigit (n / 16), Json.hexDigit n].flatMap String.utf8EncodeChar =
      0x5C :: [0x75, 0x30, 0x30, hexByte (n / 16), hexByte n] := by
  simp only [List.flatMap_cons, bytes_hexDigit, List.flatMap_nil]
  rfl

theorem codePointReverse_toNat (c : Char) : codePointReverse c.toNat = (String.utf8EncodeChar c).reverse := by
  rw [codePointReverse, Char.ofNat_toNat, String.singleton_eq_ofList, Utf8.bytes_ofList, List.flatMap_singleton]

theorem escaped?_control {c : Char} (control : c.toNat < 32) (more : List UInt8) :
    escaped? (0x75 :: 0x30 :: 0x30 :: hexByte (c.toNat / 16) :: hexByte c.toNat :: more) =
      some (some (String.utf8EncodeChar c).reverse, more) := by
  have zero : hexValue? 0x30 = some 0 := by decide
  have unit : unit? (0x30 :: 0x30 :: hexByte (c.toNat / 16) :: hexByte c.toNat :: more) = some (c.toNat, more) := by
    simp only [unit?, hexUnit?, zero, hexValue?_hexByte, Option.bind_eq_bind, Option.bind_some, Option.pure_def,
      Option.map_some, Option.some.injEq, Prod.mk.injEq, and_true]
    omega
  have trail : isTrailUnit c.toNat = false := by
    simp only [isTrailUnit, Bool.and_eq_false_iff, decide_eq_false_iff_not]
    omega
  have lead : isLeadUnit c.toNat = false := by
    simp only [isLeadUnit, Bool.and_eq_false_iff, decide_eq_false_iff_not]
    omega
  simp only [escaped?, unit, trail, lead, codePointReverse_toNat]
  rfl

/-- What a character is escaped to is read as the bytes of the character. -/
theorem string?_escape (c : Char) (seen more : List UInt8) :
    string? (some seen) ((Json.escape c).flatMap String.utf8EncodeChar ++ more) =
      string? (some ((String.utf8EncodeChar c).reverse ++ seen)) more := by
  unfold Json.escape
  split_ifs with quote backslash newline carriage tab backspace feed control
  · subst quote
    exact string?_escaped [0x22] rfl seen
  · subst backslash
    exact string?_escaped [0x5C] rfl seen
  · subst newline
    exact string?_escaped [0x6E] rfl seen
  · subst carriage
    exact string?_escaped [0x72] rfl seen
  · subst tab
    exact string?_escaped [0x74] rfl seen
  · obtain rfl : c = '\x08' := Char.toNat_inj.1 backspace
    exact string?_escaped [0x62] rfl seen
  · obtain rfl : c = '\x0C' := Char.toNat_inj.1 feed
    exact string?_escaped [0x66] rfl seen
  · rw [bytes_control]
    exact string?_escaped _ (escaped?_control control more) seen
  · rw [List.flatMap_singleton]
    exact string?_plain _ seen more fun _ => plain_of_mem quote backslash (Nat.not_lt.1 control)

theorem string?_escapes (cs : List Char) (seen more : List UInt8) :
    string? (some seen) ((cs.flatMap Json.escape).flatMap String.utf8EncodeChar ++ more) =
      string? (some ((cs.flatMap String.utf8EncodeChar).reverse ++ seen)) more := by
  induction cs generalizing seen with
  | nil => rfl
  | cons c cs ih =>
    rw [List.flatMap_cons, List.flatMap_append, List.append_assoc, string?_escape, ih, List.flatMap_cons,
      List.reverse_append, List.append_assoc]

/-- A quoted text is a quote and what is read back as the text. -/
theorem string?_quoted (s : String) :
    ∃ body, (Json.quote s).toUTF8.toList = 0x22 :: body ∧
      ∀ rest, string? (some []) (body ++ rest) = some (some s, rest) := by
  refine ⟨(s.toList.flatMap Json.escape).flatMap String.utf8EncodeChar ++ [0x22], ?_, ?_⟩
  · rw [Json.quote, Utf8.bytes_ofList, List.flatMap_append, List.flatMap_cons, List.append_assoc]
    rfl
  · intro rest
    have bytes : (s.toList.flatMap String.utf8EncodeChar).reverse.reverse = s.toUTF8.toList := by
      rw [List.reverse_reverse, ← Utf8.bytes_ofList, String.ofList_toList]
    rw [List.append_assoc, string?_escapes, List.append_nil, List.singleton_append, string?, if_pos rfl,
      Option.bind_some, bytes, Utf8.fromUTF8?_bytes]

end Draft

end BucketPlan
