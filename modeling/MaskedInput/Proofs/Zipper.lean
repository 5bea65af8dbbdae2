import MaskedInput.Field.LineBuffer
import Mathlib.Data.List.Basic
import Mathlib.Tactic.SplitIfs

/-! A line under edit as a zipper: the characters left of its caret and those right of it. Every
edit of a line is the edit of a zipper that it shows (`Shows.edit?`), where nothing has to be
counted. Nor is an offset ever wrong: what is written or removed stands where a character starts, in
the sense of the UTF-8 form (`isBoundary_iff_isValid`). -/

namespace MaskedInput

/-! ### Boundaries of the UTF-8 form -/

namespace Text

variable {t : Text} {n : Nat}

theorem utf8ByteSize_ofList (t : Text) : (String.ofList t).utf8ByteSize = octets t := by
  induction t with
  | nil => rfl
  | cons c t ih =>
      have happend : String.ofList (c :: t) = String.ofList [c] ++ String.ofList t := by
        rw [← String.ofList_append]
        rfl
      rw [happend, String.utf8ByteSize_append, ih, octets_cons, ← String.singleton_eq_ofList,
        String.utf8ByteSize_singleton]

/-- What a text is cut into are its beginning up to the offset and the rest. -/
theorem cut?_eq_some_iff {before behind : Text} :
    cut? t n = some (before, behind) ↔ t = before ++ behind ∧ n = octets before := by
  constructor
  · intro h
    induction t generalizing n before behind with
    | nil =>
        cases n with
        | zero =>
            rw [cut?_zero] at h
            cases h
            exact ⟨rfl, rfl⟩
        | succ n => rw [cut?] at h; cases h
    | cons c t ih =>
        cases n with
        | zero =>
            rw [cut?_zero] at h
            cases h
            exact ⟨rfl, rfl⟩
        | succ n =>
            rw [cut?] at h
            split_ifs at h with hinside
            obtain ⟨⟨before', behind'⟩, hcut, heq⟩ := Option.map_eq_some_iff.1 h
            cases heq
            obtain ⟨rfl, hn⟩ := ih hcut
            refine ⟨rfl, ?_⟩
            rw [octets_cons, ← hn]
            omega
  · rintro ⟨rfl, rfl⟩
    induction before with
    | nil => exact cut?_zero behind
    | cons c before ih =>
        rw [octets_cons, List.cons_append, cut?_cons_add, ih]
        rfl

/-- The offsets at which a text can be cut are those between the characters of its UTF-8 form. -/
theorem isBoundary_iff_isValid :
    IsBoundary t n ↔ String.Pos.Raw.IsValid (String.ofList t) ⟨n⟩ := by
  rw [String.Pos.Raw.isValid_iff_exists_append, IsBoundary, Option.isSome_iff_exists]
  constructor
  · rintro ⟨⟨before, behind⟩, h⟩
    obtain ⟨rfl, rfl⟩ := cut?_eq_some_iff.1 h
    refine ⟨String.ofList before, String.ofList behind, String.ofList_append, ?_⟩
    rw [String.Pos.Raw.ext_iff]
    exact (utf8ByteSize_ofList before).symm
  · rintro ⟨s, r, happend, hn⟩
    refine ⟨(s.toList, r.toList), cut?_eq_some_iff.2 ⟨?_, ?_⟩⟩
    · rw [← String.toList_append, ← happend, String.toList_ofList]
    · rw [← utf8ByteSize_ofList, String.ofList_toList]
      exact congrArg String.Pos.Raw.byteIdx hn

end Text

/-! ### Edits -/

namespace LineBuffer

/-- What may be asked of a line. -/
inductive Edit where
  | insert (c : Char)
  | backspace
  | delete
  | left
  | right
  | home
  | toEnd
  | clear
  | setText (text : Text)
  | setCaret (offset : Nat)
  deriving Repr, DecidableEq

def edit? (b : LineBuffer) : Edit → Option LineBuffer
  | .insert c => some (b.insert c)
  | .backspace => b.backspace?
  | .delete => b.delete?
  | .left => b.left?
  | .right => b.right?
  | .home => some b.home
  | .toEnd => some b.toEnd
  | .clear => some b.clear
  | .setText text => some (b.setText text)
  | .setCaret offset => some (b.setCaret offset)

/-- Whether an edit finds something to do, and the line that it leaves. -/
def step (b : LineBuffer) (e : Edit) : Bool × LineBuffer :=
  ((b.edit? e).isSome, (b.edit? e).getD b)

def run (b : LineBuffer) (edits : List Edit) : LineBuffer :=
  edits.foldl (fun b e => (b.step e).2) b

end LineBuffer

/-- The characters on both sides of a caret, each in the order in which they are read. -/
structure Zipper where
  left : Text
  right : Text
  deriving Repr, DecidableEq

namespace Zipper

open LineBuffer (Edit)

/-- A text with the caret at an offset, which is at most its length. -/
def split (text : Text) (offset : Nat) : Zipper :=
  ⟨text.take (min offset text.length), text.drop (min offset text.length)⟩

def edit? (z : Zipper) : Edit → Option Zipper
  | .insert c => some ⟨z.left ++ [c], z.right⟩
  | .backspace => z.left.getLast?.map fun _ => ⟨z.left.dropLast, z.right⟩
  | .delete => z.right.head?.map fun _ => ⟨z.left, z.right.tail⟩
  | .left => z.left.getLast?.map fun c => ⟨z.left.dropLast, c :: z.right⟩
  | .right => z.right.head?.map fun c => ⟨z.left ++ [c], z.right.tail⟩
  | .home => some ⟨[], z.left ++ z.right⟩
  | .toEnd => some ⟨z.left ++ z.right, []⟩
  | .clear => some ⟨[], []⟩
  | .setText text => some (split text z.left.length)
  | .setCaret offset => some (split (z.left ++ z.right) offset)

def step (z : Zipper) (e : Edit) : Bool × Zipper :=
  ((z.edit? e).isSome, (z.edit? e).getD z)

def run (z : Zipper) (edits : List Edit) : Zipper :=
  edits.foldl (fun z e => (z.step e).2) z

end Zipper

/-! ### Lines and zippers -/

namespace LineBuffer

/-- A line that has the characters of a zipper, with the caret between its sides. -/
structure Shows (b : LineBuffer) (z : Zipper) : Prop where
  text_eq : b.text = z.left ++ z.right
  caret_eq : b.caret = z.left.length

namespace Shows

variable {b : LineBuffer} {z : Zipper}

theorem take_caret (h : b.Shows z) : b.text.take b.caret = z.left := by
  rw [h.text_eq, h.caret_eq, List.take_left]

theorem drop_caret (h : b.Shows z) : b.text.drop b.caret = z.right := by
  rw [h.text_eq, h.caret_eq, List.drop_left]

theorem length_text (h : b.Shows z) : b.text.length = z.left.length + z.right.length := by
  rw [h.text_eq, List.length_append]

theorem insert (h : b.Shows z) (c : Char) : (b.insert c).Shows ⟨z.left ++ [c], z.right⟩ := by
  refine ⟨?_, ?_⟩
  · rw [text_insert, h.take_caret, h.drop_caret, List.append_assoc]
    rfl
  · rw [List.length_append, ← h.caret_eq]
    rfl

/-- Without the character between two parts of its text, a line is these parts. -/
theorem remove {before behind : Text} {c : Char} {index : Nat}
    (htext : b.text = before ++ c :: behind) (hindex : index = before.length)
    (hlt : index < b.text.length) : (b.remove index hlt).Shows ⟨before, behind⟩ := by
  refine ⟨?_, hindex⟩
  have hbehind : before ++ c :: behind = (before ++ [c]) ++ behind := by simp
  have hlen : index + 1 = (before ++ [c]).length := by simp [hindex]
  rw [text_remove, htext, hindex, List.take_left, ← hindex, hbehind, hlen, List.drop_left]

theorem setText (h : b.Shows z) (text : Text) :
    (b.setText text).Shows (.split text z.left.length) := by
  refine ⟨(List.take_append_drop _ _).symm, ?_⟩
  show min b.caret text.length = _
  rw [h.caret_eq, Zipper.split, List.length_take, Nat.min_eq_left (Nat.min_le_right _ _)]

theorem setCaret (h : b.Shows z) (offset : Nat) :
    (b.setCaret offset).Shows (.split (z.left ++ z.right) offset) := by
  rw [← h.text_eq]
  refine ⟨(List.take_append_drop _ _).symm, ?_⟩
  show min offset b.text.length = _
  rw [Zipper.split, List.length_take, Nat.min_eq_left (Nat.min_le_right _ _)]

/-- A caret with a character left of it. -/
theorem of_concat {left right : Text} {c : Char} (h : b.Shows ⟨left ++ [c], right⟩) :
    b.caret = left.length + 1 ∧ b.text = left ++ c :: right := by
  have hcaret := h.caret_eq
  have htext := h.text_eq
  rw [List.length_append, List.length_singleton] at hcaret
  rw [List.append_assoc] at htext
  exact ⟨hcaret, htext⟩

theorem backspace? (h : b.Shows z) : Option.Rel Shows b.backspace? (z.edit? .backspace) := by
  obtain ⟨left, right⟩ := z
  rcases List.eq_nil_or_concat' left with rfl | ⟨left, c, rfl⟩
  · have hcaret : b.caret = 0 := h.caret_eq
    rw [LineBuffer.backspace?, dif_pos hcaret]
    exact .none
  · obtain ⟨hcaret, htext⟩ := h.of_concat
    have hindex : b.caret - 1 = left.length := by omega
    have hedit : Zipper.edit? ⟨left ++ [c], right⟩ .backspace = some ⟨left, right⟩ := by
      simp [Zipper.edit?]
    rw [LineBuffer.backspace?, dif_neg (by omega), hedit]
    exact .some (remove htext hindex _)

theorem delete? (h : b.Shows z) : Option.Rel Shows b.delete? (z.edit? .delete) := by
  obtain ⟨left, right⟩ := z
  have hlen : b.text.length = left.length + right.length := h.length_text
  have hcaret : b.caret = left.length := h.caret_eq
  cases right with
  | nil =>
      rw [List.length_nil] at hlen
      rw [LineBuffer.delete?, dif_pos (by omega)]
      exact .none
  | cons c right =>
      rw [List.length_cons] at hlen
      rw [LineBuffer.delete?, dif_neg (by omega)]
      exact .some (remove h.text_eq hcaret _)

theorem left? (h : b.Shows z) : Option.Rel Shows b.left? (z.edit? .left) := by
  obtain ⟨left, right⟩ := z
  rcases List.eq_nil_or_concat' left with rfl | ⟨left, c, rfl⟩
  · have hcaret : b.caret = 0 := h.caret_eq
    rw [LineBuffer.left?, if_pos hcaret]
    exact .none
  · obtain ⟨hcaret, htext⟩ := h.of_concat
    have hindex : b.caret - 1 = left.length := by omega
    have hedit : Zipper.edit? ⟨left ++ [c], right⟩ .left = some ⟨left, c :: right⟩ := by
      simp [Zipper.edit?]
    rw [LineBuffer.left?, if_neg (by omega), hedit]
    exact .some ⟨htext, hindex⟩

theorem right? (h : b.Shows z) : Option.Rel Shows b.right? (z.edit? .right) := by
  obtain ⟨left, right⟩ := z
  have hlen : b.text.length = left.length + right.length := h.length_text
  have hcaret : b.caret = left.length := h.caret_eq
  cases right with
  | nil =>
      rw [List.length_nil] at hlen
      rw [LineBuffer.right?, dif_pos (by omega)]
      exact .none
  | cons c right =>
      rw [List.length_cons] at hlen
      have htext : b.text = (left ++ [c]) ++ right := by rw [h.text_eq, List.append_assoc]; rfl
      rw [LineBuffer.right?, dif_neg (by omega)]
      exact .some ⟨htext, by simp [hcaret]⟩

/-- Every edit does to a line what it does to the zipper that the line shows. -/
theorem edit? (h : b.Shows z) (e : Edit) : Option.Rel Shows (b.edit? e) (z.edit? e) := by
  cases e with
  | insert c => exact .some (h.insert c)
  | backspace => exact h.backspace?
  | delete => exact h.delete?
  | left => exact h.left?
  | right => exact h.right?
  | home => exact .some ⟨h.text_eq, rfl⟩
  | toEnd => exact .some ⟨by rw [List.append_nil]; exact h.text_eq, congrArg List.length h.text_eq⟩
  | clear => exact .some ⟨rfl, rfl⟩
  | setText text => exact .some (h.setText text)
  | setCaret offset => exact .some (h.setCaret offset)

theorem step (h : b.Shows z) (e : Edit) :
    (b.step e).1 = (z.step e).1 ∧ (b.step e).2.Shows (z.step e).2 := by
  have hedit := h.edit? e
  rw [LineBuffer.step, Zipper.step]
  generalize b.edit? e = line, z.edit? e = zipper at hedit
  cases hedit with
  | none => exact ⟨rfl, h⟩
  | some hnext => exact ⟨rfl, hnext⟩

theorem run (h : b.Shows z) (edits : List Edit) : (b.run edits).Shows (z.run edits) := by
  induction edits generalizing b z with
  | nil => exact h
  | cons e edits ih => exact ih (h.step e).2

end Shows

/-- A line before its first edit. -/
def opened (text : Option Text) : LineBuffer := text.elim empty ofText

theorem shows_opened (text : Option Text) : (opened text).Shows ⟨text.getD [], []⟩ := by
  cases text with
  | none => exact ⟨rfl, rfl⟩
  | some text => exact ⟨(List.append_nil text).symm, rfl⟩

/-- **A line under edit is a zipper.** Whatever edits came, the text of a line is what the zipper has
left and right of its caret, and the next edit finds something to do in the one when it does in the
other: a character left of the caret to go back over or to remove, or one right of it to go on over
or to remove. The offset of the character at the caret is a boundary of the UTF-8 form, so that a
character can be written there; and a character to remove starts at its offset. -/
theorem run_shows_zipper (text : Option Text) (edits : List Edit) :
    let b := (opened text).run edits
    let z := (Zipper.mk (text.getD []) []).run edits
    let form := String.ofList b.text
    b.text = z.left ++ z.right ∧ b.caret = z.left.length ∧
    (∀ e, (b.step e).1 = (z.step e).1 ∧ ((b.step e).1 = false → (b.step e).2 = b)) ∧
    ((b.step .backspace).1 = false ↔ z.left = []) ∧ ((b.step .left).1 = false ↔ z.left = []) ∧
    ((b.step .delete).1 = false ↔ z.right = []) ∧ ((b.step .right).1 = false ↔ z.right = []) ∧
    String.Pos.Raw.IsValid form ⟨b.text.offsetOf b.caret⟩ ∧
    (z.left ≠ [] → String.Pos.Raw.IsValid form ⟨b.text.offsetOf (b.caret - 1)⟩ ∧
      b.text.offsetOf (b.caret - 1) < form.utf8ByteSize) ∧
    (z.right ≠ [] → b.text.offsetOf b.caret < form.utf8ByteSize) := by
  intro b z form
  have h : b.Shows z := (shows_opened text).run edits
  have hlen : b.text.length = z.left.length + z.right.length := h.length_text
  have hboundary (i : Nat) : String.Pos.Raw.IsValid form ⟨b.text.offsetOf i⟩ :=
    Text.isBoundary_iff_isValid.1 (Text.isBoundary_offsetOf b.text i)
  have hstart {i : Nat} (hi : i < b.text.length) : b.text.offsetOf i < form.utf8ByteSize := by
    rw [Text.utf8ByteSize_ofList]
    exact Text.offsetOf_lt_octets hi
  refine ⟨h.text_eq, h.caret_eq, fun e => ⟨(h.step e).1, fun hnone => ?_⟩, ?_, ?_, ?_, ?_,
    hboundary b.caret, fun hleft => ⟨hboundary _, hstart ?_⟩, fun hright => hstart ?_⟩
  · rw [step, Option.isSome_eq_false_iff, Option.isNone_iff_eq_none] at hnone
    rw [step, hnone]
    rfl
  · rw [(h.step .backspace).1]
    simp [Zipper.step, Zipper.edit?]
  · rw [(h.step .left).1]
    simp [Zipper.step, Zipper.edit?]
  · rw [(h.step .delete).1]
    simp [Zipper.step, Zipper.edit?]
  · rw [(h.step .right).1]
    simp [Zipper.step, Zipper.edit?]
  · have hcaret : b.caret = z.left.length := h.caret_eq
    have hpos : 0 < z.left.length := List.length_pos_iff.2 hleft
    omega
  · have hcaret : b.caret = z.left.length := h.caret_eq
    have hpos : 0 < z.right.length := List.length_pos_iff.2 hright
    omega

end LineBuffer

end MaskedInput
