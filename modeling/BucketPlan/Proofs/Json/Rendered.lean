import BucketPlan.Proofs.Json.Strings

namespace BucketPlan

namespace Json

/-! ## Values without numbers -/

mutual

/-- No number stands in the value. -/
def NumberFree : Json → Prop
  | .null => True
  | .bool _ => True
  | .number _ => False
  | .string _ => True
  | .array items => NumberFreeItems items
  | .object members => NumberFreeMembers members

def NumberFreeItems : List Json → Prop
  | [] => True
  | item :: items => NumberFree item ∧ NumberFreeItems items

def NumberFreeMembers : List (String × Json) → Prop
  | [] => True
  | (_, value) :: members => NumberFree value ∧ NumberFreeMembers members

end

/-- The bytes of the text of a value. -/
def bytes (j : Json) : List UInt8 := j.render.toUTF8.toList

/-- The bytes between the brackets of an array. -/
def itemBytes (items : List Json) : List UInt8 := (renderItems items).toUTF8.toList

/-- The bytes between the braces of an object. -/
def memberBytes (members : List (String × Json)) : List UInt8 := (renderMembers members).toUTF8.toList

theorem bytes_null : Json.null.bytes = [0x6E, 0x75, 0x6C, 0x6C] := Utf8.bytes_ofList ['n', 'u', 'l', 'l']

theorem bytes_true : (Json.bool true).bytes = [0x74, 0x72, 0x75, 0x65] := Utf8.bytes_ofList ['t', 'r', 'u', 'e']

theorem bytes_false : (Json.bool false).bytes = [0x66, 0x61, 0x6C, 0x73, 0x65] :=
  Utf8.bytes_ofList ['f', 'a', 'l', 's', 'e']

theorem bytes_array (items : List Json) : (Json.array items).bytes = 0x5B :: (itemBytes items ++ [0x5D]) := by
  have opening : "[".toUTF8.toList = [0x5B] := Utf8.bytes_ofList ['[']
  have closing : "]".toUTF8.toList = [0x5D] := Utf8.bytes_ofList [']']
  rw [bytes, render, Utf8.bytes_append, Utf8.bytes_append, opening, closing]
  rfl

theorem bytes_object (members : List (String × Json)) :
    (Json.object members).bytes = 0x7B :: (memberBytes members ++ [0x7D]) := by
  have opening : "\x7b".toUTF8.toList = [0x7B] := Utf8.bytes_ofList ['\x7b']
  have closing : "\x7d".toUTF8.toList = [0x7D] := Utf8.bytes_ofList ['\x7d']
  rw [bytes, render, Utf8.bytes_append, Utf8.bytes_append, opening, closing]
  rfl

theorem itemBytes_nil : itemBytes [] = [] := Utf8.bytes_ofList []

theorem memberBytes_nil : memberBytes [] = [] := Utf8.bytes_ofList []

theorem itemBytes_cons (item next : Json) (items : List Json) :
    itemBytes (item :: next :: items) = item.bytes ++ 0x2C :: itemBytes (next :: items) := by
  have comma : ",".toUTF8.toList = [0x2C] := Utf8.bytes_ofList [',']
  rw [itemBytes, renderItems, Utf8.bytes_append, Utf8.bytes_append, comma, List.append_assoc]
  · rfl
  · simp

theorem memberBytes_singleton (name : String) (value : Json) :
    memberBytes [(name, value)] = (quote name).toUTF8.toList ++ 0x3A :: value.bytes := by
  have colon : ":".toUTF8.toList = [0x3A] := Utf8.bytes_ofList [':']
  rw [memberBytes, renderMembers, Utf8.bytes_append, Utf8.bytes_append, colon, List.append_assoc]
  rfl

theorem memberBytes_cons (name : String) (value : Json) (next : String × Json) (members : List (String × Json)) :
    memberBytes ((name, value) :: next :: members) =
      (quote name).toUTF8.toList ++ 0x3A :: (value.bytes ++ 0x2C :: memberBytes (next :: members)) := by
  have colon : ":".toUTF8.toList = [0x3A] := Utf8.bytes_ofList [':']
  have comma : ",".toUTF8.toList = [0x2C] := Utf8.bytes_ofList [',']
  rw [memberBytes, renderMembers, Utf8.bytes_append, Utf8.bytes_append, Utf8.bytes_append, Utf8.bytes_append, colon,
    comma]
  · simp only [List.append_assoc, List.singleton_append]
    rfl
  · simp

theorem exists_bytes_cons {j : Json} (free : j.NumberFree) :
    ∃ b more, j.bytes = b :: more ∧ Draft.isSpace b = false ∧ b ≠ 0x5D := by
  cases j with
  | null => exact ⟨_, _, bytes_null, by decide⟩
  | bool value =>
    cases value with
    | true => exact ⟨_, _, bytes_true, by decide⟩
    | false => exact ⟨_, _, bytes_false, by decide⟩
  | number value => exact free.elim
  | string value =>
    obtain ⟨body, opens, _⟩ := Draft.string?_quoted value
    exact ⟨_, _, opens, by decide⟩
  | array items => exact ⟨_, _, bytes_array items, by decide⟩
  | object members => exact ⟨_, _, bytes_object members, by decide⟩

theorem exists_itemBytes_cons {item : Json} (items : List Json) (free : item.NumberFree) :
    ∃ b more, itemBytes (item :: items) = b :: more ∧ Draft.isSpace b = false ∧ b ≠ 0x5D := by
  obtain ⟨b, more, opens, visible, other⟩ := exists_bytes_cons free
  cases items with
  | nil => exact ⟨b, more, opens, visible, other⟩
  | cons next items => exact ⟨b, _, by rw [itemBytes_cons, opens, List.cons_append], visible, other⟩

theorem exists_memberBytes_cons (member : String × Json) (members : List (String × Json)) :
    ∃ more, memberBytes (member :: members) = 0x22 :: more := by
  obtain ⟨name, value⟩ := member
  obtain ⟨body, opens, _⟩ := Draft.string?_quoted name
  cases members with
  | nil => exact ⟨_, by rw [memberBytes_singleton, opens, List.cons_append]⟩
  | cons next members => exact ⟨_, by rw [memberBytes_cons, opens, List.cons_append]⟩

end Json

/-! ## Reading -/

namespace Draft

theorem skipSpace_cons {b : UInt8} (visible : isSpace b = false) (bs : List UInt8) : skipSpace (b :: bs) = b :: bs := by
  rw [skipSpace, List.dropWhile_cons_of_neg (by rw [visible]; decide)]

theorem value_bracket {b : UInt8} (visible : isSpace b = false) (other : b ≠ 0x5D) {steps : Nat} {more : List UInt8} :
    value (steps + 1) (0x5B :: b :: more) =
      (.array (items steps (b :: more)).1 (items steps (b :: more)).2.isSome, (items steps (b :: more)).2) := by
  rw [value, skipSpace_cons (by decide)]
  simp only [show ¬ (0x5B : UInt8) = 0x22 by decide, if_false, if_true, skipSpace_cons visible]
  split
  · next closed => exact absurd (List.cons.inj closed).1 other
  · rfl

theorem value_brace {steps : Nat} {more : List UInt8} :
    value (steps + 1) (0x7B :: 0x22 :: more) =
      (.object (members steps (0x22 :: more)).1 (members steps (0x22 :: more)).2.isSome,
        (members steps (0x22 :: more)).2) := by
  rw [value, skipSpace_cons (by decide)]
  simp only [show ¬ (0x7B : UInt8) = 0x22 by decide, show ¬ (0x7B : UInt8) = 0x5B by decide, if_false, if_true,
    skipSpace_cons (show isSpace 0x22 = false by decide)]
  split
  · next closed => exact absurd (List.cons.inj closed).1 (by decide)
  · rfl

/-- So many steps suffice for a value that takes no more bytes. -/
def ReadsValues (steps : Nat) : Prop :=
  ∀ (j : Json) (rest : List UInt8), j.NumberFree → j.bytes.length ≤ steps →
    value steps (j.bytes ++ rest) = (j.draft, some rest)

/-- So many steps suffice for items that take fewer bytes. -/
def ReadsItems (steps : Nat) : Prop :=
  ∀ (item : Json) (more : List Json) (rest : List UInt8), Json.NumberFreeItems (item :: more) →
    (Json.itemBytes (item :: more)).length < steps →
    items steps (Json.itemBytes (item :: more) ++ 0x5D :: rest) = (Json.draftItems (item :: more), some rest)

/-- So many steps suffice for members that take fewer bytes. -/
def ReadsMembers (steps : Nat) : Prop :=
  ∀ (member : String × Json) (more : List (String × Json)) (rest : List UInt8),
    Json.NumberFreeMembers (member :: more) → (Json.memberBytes (member :: more)).length < steps →
    members steps (Json.memberBytes (member :: more) ++ 0x7D :: rest) =
      (Json.draftMembers (member :: more), some rest)

section Step
variable {steps : Nat}

theorem readsValues_succ (readsItems : ReadsItems steps) (readsMembers : ReadsMembers steps) :
    ReadsValues (steps + 1) := by
  intro j rest free enough
  cases j with
  | null =>
    rw [Json.bytes_null]
    rfl
  | bool truth =>
    cases truth with
    | true =>
      rw [Json.bytes_true]
      rfl
    | false =>
      rw [Json.bytes_false]
      rfl
  | number n => exact free.elim
  | string text =>
    obtain ⟨body, opens, reads⟩ := string?_quoted text
    have bytes : (Json.string text).bytes = 0x22 :: body := opens
    rw [bytes, List.cons_append, value, skipSpace_cons (by decide)]
    simp only [if_true, reads rest]
    rfl
  | array items =>
    rw [Json.bytes_array] at enough ⊢
    cases items with
    | nil =>
      rw [Json.itemBytes_nil]
      rfl
    | cons item items =>
      obtain ⟨b, tail, opens, visible, other⟩ := Json.exists_itemBytes_cons items free.1
      have inside := readsItems item items rest free
        (by simp only [List.length_cons, List.length_append] at enough; omega)
      rw [List.cons_append, List.append_assoc, List.singleton_append]
      rw [opens, List.cons_append] at inside ⊢
      rw [value_bracket visible other, inside]
      rfl
  | object members =>
    rw [Json.bytes_object] at enough ⊢
    cases members with
    | nil =>
      rw [Json.memberBytes_nil]
      rfl
    | cons member members =>
      obtain ⟨tail, opens⟩ := Json.exists_memberBytes_cons member members
      have inside := readsMembers member members rest free
        (by simp only [List.length_cons, List.length_append] at enough; omega)
      rw [List.cons_append, List.append_assoc, List.singleton_append]
      rw [opens, List.cons_append] at inside ⊢
      rw [value_brace, inside]
      rfl

theorem readsItems_succ (readsValues : ReadsValues steps) (readsItems : ReadsItems steps) :
    ReadsItems (steps + 1) := by
  intro item more rest free enough
  cases more with
  | nil =>
    have bytes : Json.itemBytes [item] = item.bytes := rfl
    rw [bytes] at enough ⊢
    rw [items, readsValues item (0x5D :: rest) free.1 (by omega)]
    rfl
  | cons next more =>
    rw [Json.itemBytes_cons] at enough ⊢
    simp only [List.length_append, List.length_cons] at enough
    rw [List.append_assoc, List.cons_append, items, readsValues item _ free.1 (by omega)]
    simp only [skipSpace_cons (show isSpace 0x2C = false by decide), readsItems next more rest free.2 (by omega)]
    rfl

theorem readsMembers_succ (readsValues : ReadsValues steps) (readsMembers : ReadsMembers steps) :
    ReadsMembers (steps + 1) := by
  intro member more rest free enough
  obtain ⟨name, field⟩ := member
  obtain ⟨body, opens, reads⟩ := string?_quoted name
  cases more with
  | nil =>
    rw [Json.memberBytes_singleton, opens] at enough ⊢
    simp only [List.length_append, List.length_cons] at enough
    simp only [List.append_assoc, List.cons_append, members, skipSpace_cons (show isSpace 0x22 = false by decide),
      takeByte?, if_true, reads, skipSpace_cons (show isSpace 0x3A = false by decide),
      readsValues field (0x7D :: rest) free.1 (by omega)]
    rfl
  | cons next more =>
    rw [Json.memberBytes_cons, opens] at enough ⊢
    simp only [List.length_append, List.length_cons] at enough
    simp only [List.append_assoc, List.cons_append, members, skipSpace_cons (show isSpace 0x22 = false by decide),
      takeByte?, if_true, reads, skipSpace_cons (show isSpace 0x3A = false by decide),
      readsValues field _ free.1 (by omega), skipSpace_cons (show isSpace 0x2C = false by decide),
      readsMembers next more rest free.2 (by omega)]
    rfl

end Step

/-- As many steps as there are bytes suffice. -/
theorem reads (steps : Nat) : ReadsValues steps ∧ ReadsItems steps ∧ ReadsMembers steps := by
  induction steps with
  | zero =>
    refine ⟨?_, ?_, ?_⟩
    · intro j rest free enough
      obtain ⟨b, more, opens, _⟩ := Json.exists_bytes_cons free
      rw [opens] at enough
      exact absurd enough (by simp)
    · intro _ _ _ _ fewer
      exact absurd fewer (Nat.not_lt_zero _)
    · intro _ _ _ _ fewer
      exact absurd fewer (Nat.not_lt_zero _)
  | succ steps ih =>
    obtain ⟨values, items, members⟩ := ih
    exact ⟨readsValues_succ items members, readsItems_succ values items, readsMembers_succ values members⟩

/-- A rendered value without numbers is read as the value, to the end of the text. -/
theorem read_render {j : Json} (free : j.NumberFree) : read j.render.toUTF8.toList = ⟨j.draft, true⟩ := by
  have run := (reads (2 * j.bytes.length + 2)).1 j [] free (by omega)
  rw [List.append_nil] at run
  change read j.bytes = _
  rw [read, run]
  rfl

end Draft

namespace Json

mutual

theorem toJson?_draft : ∀ j : Json, j.draft.toJson? = some j
  | .null => rfl
  | .bool _ => rfl
  | .number _ => rfl
  | .string _ => rfl
  | .array items => by rw [draft, Draft.toJson?, items?_draftItems items]; rfl
  | .object members => by rw [draft, Draft.toJson?, members?_draftMembers members]; rfl

theorem items?_draftItems : ∀ items : List Json, Draft.items? (draftItems items) = some items
  | [] => rfl
  | item :: items => by rw [draftItems, Draft.items?, toJson?_draft item, items?_draftItems items]; rfl

theorem members?_draftMembers : ∀ members : List (String × Json), Draft.members? (draftMembers members) = some members
  | [] => rfl
  | (name, value) :: members => by
    rw [draftMembers, Draft.members?, toJson?_draft value, members?_draftMembers members]; rfl

end

/-- A value without numbers is parsed as it was rendered. -/
theorem parse?_render {j : Json} (free : j.NumberFree) : parse? j.render = some j := by
  rw [parse?, Draft.read_render free]
  exact j.toJson?_draft

end Json

end BucketPlan
