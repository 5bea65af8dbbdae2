import MaskedInput.Text.CodePoints

/-! Offsets into the UTF-8 form of a text. Such an offset may stand inside a character, where a text
cannot be cut; so whoever cuts a text or changes it at an offset has to know that it is a boundary,
and that is known of the offsets of characters (`cut?_offsetOf`). -/

namespace MaskedInput.Text

/-- The length of the UTF-8 form. -/
def octets : Text → Nat
  | [] => 0
  | c :: t => c.utf8Size + octets t

/-- Where each character starts, with the first one at a given offset. -/
def starts (first : Nat) : Text → List Nat
  | [] => []
  | c :: t => first :: starts (first + c.utf8Size) t

/-- Where the character with an index starts; for an index beyond the last one, the end. -/
def offsetOf (t : Text) (index : Nat) : Nat := ((starts 0 t)[index]?).getD (octets t)

/-- The parts of a text on both sides of an offset. There are none inside a character, and none
beyond the end. -/
def cut? : Text → Nat → Option (Text × Text)
  | t, 0 => some ([], t)
  | [], _ + 1 => none
  | c :: t, n + 1 =>
    if n + 1 < c.utf8Size then none
    else (cut? t (n + 1 - c.utf8Size)).map fun (before, behind) => (c :: before, behind)

/-- A text can be cut at the offset. -/
def IsBoundary (t : Text) (offset : Nat) : Prop := (cut? t offset).isSome = true

/-- A character of the text starts at the offset. -/
def IsStart (t : Text) (offset : Nat) : Prop := IsBoundary t offset ∧ offset < octets t

/-- Writes a character at an offset. -/
def insertAt (t : Text) (offset : Nat) (h : IsBoundary t offset) (c : Char) : Text :=
  let (before, behind) := (cut? t offset).get h
  before ++ c :: behind

/-- Removes the character at an offset. -/
def removeAt (t : Text) (offset : Nat) (h : IsStart t offset) : Text :=
  let (before, behind) := (cut? t offset).get h.1
  before ++ behind.tail

/-! ### The offsets of characters -/

theorem octets_cons (c : Char) (t : Text) : octets (c :: t) = c.utf8Size + octets t := rfl

theorem starts_eq_map (first : Nat) (t : Text) : starts first t = (starts 0 t).map (first + ·) := by
  induction t generalizing first with
  | nil => rfl
  | cons c t ih =>
    rw [starts, starts, ih (first + c.utf8Size), ih (0 + c.utf8Size), List.map_cons, List.map_map]
    simp only [Nat.add_zero, Nat.zero_add, Nat.add_assoc, Function.comp_def]

@[simp] theorem offsetOf_nil (i : Nat) : offsetOf [] i = 0 := by
  simp [offsetOf, starts, octets]

@[simp] theorem offsetOf_zero (t : Text) : offsetOf t 0 = 0 := by
  cases t with
  | nil => exact offsetOf_nil 0
  | cons c t => rfl

theorem offsetOf_cons_succ (c : Char) (t : Text) (i : Nat) :
    offsetOf (c :: t) (i + 1) = c.utf8Size + offsetOf t i := by
  rw [offsetOf, starts, List.getElem?_cons_succ, starts_eq_map, List.getElem?_map, octets_cons,
    offsetOf, Nat.zero_add]
  cases (starts 0 t)[i]? <;> rfl

theorem offsetOf_lt_octets {t : Text} {i : Nat} (hi : i < t.length) : offsetOf t i < octets t := by
  induction t generalizing i with
  | nil => cases hi
  | cons c t ih =>
    rw [octets_cons]
    cases i with
    | zero =>
      have := c.utf8Size_pos
      rw [offsetOf_zero]
      omega
    | succ i =>
      rw [offsetOf_cons_succ]
      exact Nat.add_lt_add_left (ih (Nat.lt_of_succ_lt_succ hi)) _

theorem cut?_zero (t : Text) : cut? t 0 = some ([], t) := by
  rw [cut?]

theorem cut?_cons_add (c : Char) (t : Text) (n : Nat) :
    cut? (c :: t) (c.utf8Size + n) = (cut? t n).map fun (before, behind) => (c :: before, behind) := by
  obtain ⟨m, hm⟩ := Nat.exists_eq_succ_of_ne_zero (Nat.ne_of_gt c.utf8Size_pos)
  have hn : m.succ + n = m + n + 1 := Nat.succ_add m n
  have hrest : m + n + 1 - m.succ = n := by omega
  rw [hm, hn, cut?, hm, if_neg (by omega), hrest]

/-- A text is cut in front of a character by the offset of the character. -/
theorem cut?_offsetOf (t : Text) (i : Nat) :
    cut? t (offsetOf t i) = some (t.take i, t.drop i) := by
  induction t generalizing i with
  | nil => rw [offsetOf_nil, cut?_zero, List.take_nil, List.drop_nil]
  | cons c t ih =>
    cases i with
    | zero => rw [offsetOf_zero, cut?_zero, List.take_zero, List.drop_zero]
    | succ i =>
      rw [offsetOf_cons_succ, cut?_cons_add, ih]
      rfl

theorem isBoundary_offsetOf (t : Text) (i : Nat) : IsBoundary t (offsetOf t i) := by
  rw [IsBoundary, cut?_offsetOf]
  rfl

theorem isStart_offsetOf {t : Text} {i : Nat} (hi : i < t.length) : IsStart t (offsetOf t i) :=
  ⟨isBoundary_offsetOf t i, offsetOf_lt_octets hi⟩

theorem insertAt_offsetOf (t : Text) (i : Nat) (c : Char) :
    insertAt t (offsetOf t i) (isBoundary_offsetOf t i) c = t.take i ++ c :: t.drop i := by
  simp only [insertAt, cut?_offsetOf, Option.get_some]

theorem removeAt_offsetOf {t : Text} {i : Nat} (hi : i < t.length) :
    removeAt t (offsetOf t i) (isStart_offsetOf hi) = t.take i ++ t.drop (i + 1) := by
  simp only [removeAt, cut?_offsetOf, Option.get_some, List.tail_drop]

end MaskedInput.Text
