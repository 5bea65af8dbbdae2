import MaskedInput.Proofs.Fits
import MaskedInput.Proofs.Stripping
import MaskedInput.Mask.Formatted

/-! What a layout consists of. An input gives its characters to the classes of the placeholders one
after the other (`taken`) and keeps what stands after the last of them (`unread`). The mask is
written out up to the placeholder that takes the last character (`spread`), and the separators
after it follow as long as something is unread (`display`). The main statement is `format_eq`. -/

namespace MaskedInput

/-- The class that a token asks for. -/
def Token.charClass? : Token → Option CharClass
  | .separator _ => none
  | .placeholder k => some k

/-- Tokens whose separators all have a literal of some kind. -/
def EachSeparator (P : Char → Prop) (tokens : List Token) : Prop :=
  ∀ l, .separator l ∈ tokens → P l

namespace EachSeparator

variable {P : Char → Prop} {tokens : List Token}

theorem head {l : Char} (h : EachSeparator P (.separator l :: tokens)) : P l :=
  h l List.mem_cons_self

theorem tail {t : Token} (h : EachSeparator P (t :: tokens)) : EachSeparator P tokens :=
  fun l hl => h l (List.mem_cons_of_mem t hl)

theorem drop (h : EachSeparator P tokens) (n : Nat) : EachSeparator P (tokens.drop n) :=
  fun l hl => h l (List.mem_of_mem_drop hl)

end EachSeparator

namespace Formatted

variable {cs : Bool}

def classes (tokens : List Token) : List CharClass := tokens.filterMap Token.charClass?

@[simp] theorem classes_nil : classes [] = [] := rfl

@[simp] theorem classes_separator (l : Char) (tokens : List Token) :
    classes (.separator l :: tokens) = classes tokens := rfl

@[simp] theorem classes_placeholder (k : CharClass) (tokens : List Token) :
    classes (.placeholder k :: tokens) = k :: classes tokens := rfl

theorem length_classes (p : Pattern) : (classes p.tokens).length = p.placeholderCount := by
  rw [Pattern.placeholderCount]
  induction p.tokens with
  | nil => rfl
  | cons t tokens ih =>
      cases t with
      | separator l => simpa [Token.isSeparator] using ih
      | placeholder k => simpa [Token.isSeparator] using ih

/-! ### Characters for classes -/

/-- The characters that some classes take from an input, each the first one of its class after the
one before it. -/
def taken (cs : Bool) : List CharClass → Text → Text
  | [], _ => []
  | k :: ks, s =>
    match s.dropWhile (!k.accepts cs ·) with
    | [] => []
    | c :: rest => c :: taken cs ks rest

/-- What an input holds after the last character that is taken. -/
def unread (cs : Bool) : List CharClass → Text → Text
  | [], s => s
  | k :: ks, s =>
    match s.dropWhile (!k.accepts cs ·) with
    | [] => s
    | _ :: rest => unread cs ks rest

@[simp] theorem taken_nil (ks : List CharClass) : taken cs ks [] = [] := by
  cases ks <;> rfl

@[simp] theorem unread_nil (ks : List CharClass) : unread cs ks [] = [] := by
  cases ks <;> rfl

theorem taken_sublist (ks : List CharClass) (s : Text) : (taken cs ks s).Sublist s := by
  induction ks generalizing s with
  | nil => exact List.nil_sublist s
  | cons k ks ih =>
      rw [taken]
      split
      · exact List.nil_sublist s
      · rename_i c rest hrest
        have hsuffix := (List.dropWhile_suffix (l := s) (!k.accepts cs ·)).sublist
        rw [hrest] at hsuffix
        exact ((ih rest).cons_cons c).trans hsuffix

/-- Further input goes to the classes that are still open. -/
theorem taken_append (ks : List CharClass) (s x : Text) :
    taken cs ks (s ++ x) =
      taken cs ks s ++ taken cs (ks.drop (taken cs ks s).length) x := by
  induction ks generalizing s with
  | nil => rfl
  | cons k ks ih =>
      rcases hs : s.dropWhile (!k.accepts cs ·) with _ | ⟨c, rest⟩
      · simp [taken, List.dropWhile_append, hs]
      · simp [taken, List.dropWhile_append, hs, ih rest]

/-- Where nothing is taken, nothing counts as read. -/
theorem unread_of_taken_eq_nil {ks : List CharClass} {s : Text} (h : taken cs ks s = []) :
    unread cs ks s = s := by
  cases ks with
  | nil => rfl
  | cons k ks =>
      rcases hs : s.dropWhile (!k.accepts cs ·) with _ | ⟨c, rest⟩
      · simp [unread, hs]
      · simp [taken, hs] at h

theorem unread_append (ks : List CharClass) (s x : Text) :
    unread cs ks (s ++ x) =
      if taken cs (ks.drop (taken cs ks s).length) x = [] then unread cs ks s ++ x
      else unread cs (ks.drop (taken cs ks s).length) x := by
  induction ks generalizing s with
  | nil => simp [taken, unread]
  | cons k ks ih =>
      rcases hs : s.dropWhile (!k.accepts cs ·) with _ | ⟨c, rest⟩
      · rcases hx : x.dropWhile (!k.accepts cs ·) with _ | ⟨d, more⟩
        · simp [taken, unread, List.dropWhile_append, hs, hx]
        · simp [taken, unread, List.dropWhile_append, hs, hx]
      · simp [taken, unread, List.dropWhile_append, hs, ih rest]

/-- A single character is taken, and then nothing is left, or it is not. -/
theorem taken_singleton (ks : List CharClass) (c : Char) :
    taken cs ks [c] = [] ∨ taken cs ks [c] = [c] ∧ unread cs ks [c] = [] := by
  cases ks with
  | nil => exact .inl rfl
  | cons k ks =>
      by_cases hk : k.accepts cs c = true
      · exact .inr (by simp [taken, unread, hk])
      · exact .inl (by simp [taken, hk])

theorem fits_taken (ks : List CharClass) (s : Text) :
    Fits (·.accepts cs · = true) ks (taken cs ks s) := by
  induction ks generalizing s with
  | nil => exact .nil []
  | cons k ks ih =>
      rw [taken]
      split
      · exact .nil _
      · rename_i c rest hrest
        have hc := List.head?_dropWhile_not (!k.accepts cs ·) s
        rw [hrest] at hc
        exact .cons (by simpa using hc) (ih rest)

theorem taken_of_fits {ks : List CharClass} {w : Text}
    (h : Fits (·.accepts cs · = true) ks w) : taken cs ks w = w := by
  induction h with
  | nil ks => exact taken_nil ks
  | cons head tail ih => simp [taken, head, ih]

theorem unread_of_fits {ks : List CharClass} {w : Text}
    (h : Fits (·.accepts cs · = true) ks w) : unread cs ks w = [] := by
  induction h with
  | nil ks => exact unread_nil ks
  | cons head tail ih => simp [unread, head, ih]

/-! ### Tokens written out -/

/-- The tokens up to the placeholder that takes the last of some characters. -/
def spread : List Token → Text → Text
  | _, [] => []
  | [], _ :: _ => []
  | .separator l :: tokens, c :: w => l :: spread tokens (c :: w)
  | .placeholder _ :: tokens, c :: w => c :: spread tokens w

/-- The separators in front of the first placeholder. -/
def separatorRun : List Token → Text
  | .separator l :: tokens => l :: separatorRun tokens
  | _ => []

/-- The separators after the layout of some characters. -/
def runAfter (tokens : List Token) (w : Text) : Text :=
  separatorRun (tokens.drop (spread tokens w).length)

@[simp] theorem spread_nil (tokens : List Token) : spread tokens [] = [] := by
  rw [spread]

@[simp] theorem spread_separator (l c : Char) (tokens : List Token) (w : Text) :
    spread (.separator l :: tokens) (c :: w) = l :: spread tokens (c :: w) := by
  rw [spread]

@[simp] theorem spread_placeholder (k : CharClass) (c : Char) (tokens : List Token) (w : Text) :
    spread (.placeholder k :: tokens) (c :: w) = c :: spread tokens w := by
  rw [spread]

@[simp] theorem runAfter_nil (tokens : List Token) : runAfter tokens [] = separatorRun tokens := by
  rw [runAfter, spread_nil]
  rfl

/-- A layout that shows some characters, with the separators after them if there is more. -/
def display (tokens : List Token) (w : Text) (more : Bool) : Text :=
  if w = [] then [] else spread tokens w ++ if more then runAfter tokens w else []

@[simp] theorem display_false (tokens : List Token) (w : Text) :
    display tokens w false = spread tokens w := by
  by_cases hempty : w = []
  · rw [display, if_pos hempty, hempty, spread_nil]
  · rw [display, if_neg hempty, if_neg Bool.false_ne_true, List.append_nil]

theorem layOut_eq (tokens : List Token) (s : Text) :
    layOut cs tokens s =
      ⟨spread tokens (taken cs (classes tokens) s) ++
          if unread cs (classes tokens) s = [] then []
          else runAfter tokens (taken cs (classes tokens) s),
        (taken cs (classes tokens) s).length⟩ := by
  induction tokens generalizing s with
  | nil =>
      rw [layOut]
      simp [taken, runAfter, separatorRun, empty]
  | cons t tokens ih =>
      cases s with
      | nil =>
          rw [layOut]
          · simp [empty]
          · simp
      | cons c s =>
          cases t with
          | separator l =>
              rw [layOut, ih, writeLiteral, classes_separator]
              rcases hw : taken cs (classes tokens) (c :: s) with _ | ⟨d, w⟩
              · rw [unread_of_taken_eq_nil hw]
                simp [runAfter, separatorRun]
              · simp [spread, runAfter]
          | placeholder k =>
              rw [layOut]
              rcases hs : (c :: s).dropWhile (!k.accepts cs ·) with _ | ⟨d, rest⟩
              · simp [taken, unread, hs, runAfter, separatorRun, empty]
              · simp [taken, unread, hs, ih, writeTaken, runAfter]

theorem fits_spread {R : Token → Char → Prop} {tokens : List Token} {w : Text}
    (hsep : EachSeparator (fun l => R (.separator l) l) tokens)
    (hw : Fits (fun k c => R (.placeholder k) c) (classes tokens) w) :
    Fits R tokens (spread tokens w) := by
  induction tokens generalizing w with
  | nil =>
      cases w with
      | nil => exact .nil []
      | cons c w => cases hw
  | cons t tokens ih =>
      cases w with
      | nil => exact .nil _
      | cons c w =>
          cases t with
          | separator l => exact .cons hsep.head (ih hsep.tail hw)
          | placeholder k =>
              cases hw with
              | cons head tail => exact .cons head (ih hsep.tail tail)

theorem fits_separatorRun {R : Token → Char → Prop} {tokens : List Token}
    (hsep : EachSeparator (fun l => R (.separator l) l) tokens) :
    Fits R tokens (separatorRun tokens) := by
  induction tokens with
  | nil => exact .nil []
  | cons t tokens ih =>
      cases t with
      | separator l => exact .cons hsep.head (ih hsep.tail)
      | placeholder k => exact .nil _

theorem fits_display {R : Token → Char → Prop} {tokens : List Token} {w : Text} (more : Bool)
    (hsep : EachSeparator (fun l => R (.separator l) l) tokens)
    (hw : Fits (fun k c => R (.placeholder k) c) (classes tokens) w) :
    Fits R tokens (display tokens w more) := by
  rw [display]
  split_ifs with hempty hmore
  · exact .nil tokens
  · exact (fits_spread hsep hw).append (fits_separatorRun (hsep.drop _))
  · rw [List.append_nil]
    exact fits_spread hsep hw

/-! ### Reading the characters back -/

section Filter

variable {tokens : List Token} {seps : Alphabet}

theorem filter_spread {w : Text} (hsep : EachSeparator (· ∈ seps) tokens)
    (hw : ∀ c ∈ w, c ∉ seps) (hlen : w.length ≤ (classes tokens).length) :
    (spread tokens w).filter (· ∉ seps) = w := by
  induction tokens generalizing w with
  | nil =>
      cases w with
      | nil => rfl
      | cons c w => simp at hlen
  | cons t tokens ih =>
      cases w with
      | nil => rfl
      | cons c w =>
          cases t with
          | separator l =>
              have hl : l ∈ seps := hsep.head
              rw [spread, List.filter_cons_of_neg (by simpa using hl), ih hsep.tail hw hlen]
          | placeholder k =>
              have hc : c ∉ seps := hw c List.mem_cons_self
              rw [spread, List.filter_cons_of_pos (by simpa using hc),
                ih hsep.tail (fun d hd => hw d (List.mem_cons_of_mem c hd))
                  (Nat.le_of_succ_le_succ hlen)]

theorem filter_separatorRun (hsep : EachSeparator (· ∈ seps) tokens) :
    (separatorRun tokens).filter (· ∉ seps) = [] := by
  induction tokens with
  | nil => rfl
  | cons t tokens ih =>
      cases t with
      | separator l =>
          have hl : l ∈ seps := hsep.head
          rw [separatorRun, List.filter_cons_of_neg (by simpa using hl)]
          exact ih hsep.tail
      | placeholder k => rfl

/-- A layout keeps the characters that it shows, and nothing else of it is theirs. -/
theorem filter_display {w : Text} (more : Bool) (hsep : EachSeparator (· ∈ seps) tokens)
    (hw : ∀ c ∈ w, c ∉ seps) (hlen : w.length ≤ (classes tokens).length) :
    (display tokens w more).filter (· ∉ seps) = w := by
  rw [display]
  split_ifs with hempty hmore
  · exact hempty.symm
  · rw [List.filter_append, filter_spread hsep hw hlen, runAfter,
      filter_separatorRun (hsep.drop _), List.append_nil]
  · rw [List.append_nil, filter_spread hsep hw hlen]

end Filter

end Formatted

namespace Pattern

open Formatted

variable {cs : Bool}

/-- What may stand on a token: on a separator its literal, and on a placeholder a character of its
class that is no separator anywhere in the pattern. -/
def Admits (p : Pattern) (cs : Bool) : Token → Char → Prop
  | .separator l, c => c = l
  | .placeholder k, c => k.accepts cs c = true ∧ c ∉ p.separators

/-- Characters that the first placeholders can hold, one each. -/
def Holds (p : Pattern) (cs : Bool) (w : Text) : Prop :=
  Fits (fun k c => p.Admits cs (.placeholder k) c) (classes p.tokens) w

/-- The characters of a raw text that the placeholders take. -/
def chosen (p : Pattern) (cs : Bool) (raw : Text) : Text :=
  taken cs (classes p.tokens) (p.strip raw)

/-- Whether a raw text has characters after those that the placeholders take. -/
def hasMore (p : Pattern) (cs : Bool) (raw : Text) : Bool :=
  !(unread cs (classes p.tokens) (p.strip raw)).isEmpty

theorem format_eq (p : Pattern) (cs : Bool) (raw : Text) :
    p.format cs raw =
      ⟨display p.tokens (p.chosen cs raw) (p.hasMore cs raw), (p.chosen cs raw).length⟩ := by
  rw [format, layOut_eq, settle, ← chosen, display, hasMore]
  rcases hw : p.chosen cs raw with _ | ⟨c, w⟩
  · rfl
  · rcases hu : unread cs (classes p.tokens) (p.strip raw) with _ | ⟨d, u⟩
    · simp
    · simp

section Compiled

variable {d w : Text}

theorem not_mem_separators_of_mem_strip {raw : Text} {c : Char}
    (hc : c ∈ (compile d).strip raw) : c ∉ (compile d).separators := by
  rw [strip_compile] at hc
  simpa using (List.mem_filter.1 hc).2

/-- The alphabet has the literals of all separators. -/
theorem eachSeparator_compile (d : Text) :
    EachSeparator (· ∈ (compile d).separators) (compile d).tokens :=
  fun _ hl => mem_separators_compile.2 hl

theorem holds_chosen (d : Text) (cs : Bool) (raw : Text) :
    (compile d).Holds cs ((compile d).chosen cs raw) := by
  refine Fits.and (fits_taken _ _) fun c hc => ?_
  exact not_mem_separators_of_mem_strip ((taken_sublist _ _).subset hc)

theorem Holds.not_mem_separators {p : Pattern} (hw : p.Holds cs w) {c : Char} (hc : c ∈ w) :
    c ∉ p.separators := by
  obtain ⟨k, -, hk⟩ := Fits.exists_of_mem hw hc
  exact hk.2

theorem Holds.fits_display (hw : (compile d).Holds cs w) (more : Bool) :
    Fits ((compile d).Admits cs) (compile d).tokens (display (compile d).tokens w more) :=
  Formatted.fits_display more (fun _ _ => rfl) hw

theorem Holds.strip_display (hw : (compile d).Holds cs w) (more : Bool) :
    (compile d).strip (display (compile d).tokens w more) = w := by
  rw [strip_compile]
  exact filter_display more (eachSeparator_compile d)
    (fun _ hc => hw.not_mem_separators hc) (Fits.length_le hw)

theorem Holds.accepted {p : Pattern} (hw : p.Holds cs w) :
    Fits (·.accepts cs · = true) (classes p.tokens) w :=
  Fits.mono (fun _ _ h => h.1) hw

theorem fits_format (d : Text) (cs : Bool) (raw : Text) :
    Fits ((compile d).Admits cs) (compile d).tokens ((compile d).format cs raw).value := by
  rw [format_eq]
  exact (holds_chosen d cs raw).fits_display _

/-- A layout holds the characters that the placeholders have taken. -/
theorem strip_format (d : Text) (cs : Bool) (raw : Text) :
    (compile d).strip ((compile d).format cs raw).value = (compile d).chosen cs raw := by
  rw [format_eq]
  exact (holds_chosen d cs raw).strip_display _

theorem chosen_nil (d : Text) (cs : Bool) : (compile d).chosen cs [] = [] := by
  rw [chosen, strip_compile, List.filter_nil, taken_nil]

end Compiled

end Pattern

end MaskedInput
