import MaskedInput.Mask.Alphabet

/-! Bracket classes, the written form of a set of characters. `[a-fx]` holds the members of its
ranges, `[^a-f]` the others; classes nest, and `&&`, `--` and `~~` take the intersection, the
difference and the symmetric difference of what stands on their two sides, from left to right. A
backslash makes a literal of a character with a meaning of its own, a leading `]` and leading `-`s
are literals without one. `parse?` reads the notation and `written` spells an alphabet in it. -/

namespace MaskedInput

inductive SetOperator where
  | intersection
  | difference
  | symmetricDifference
  deriving Repr, DecidableEq

inductive BracketClass where
  | empty
  | range (first last : Char)
  | union (left right : BracketClass)
  | complement (inner : BracketClass)
  | combined (operator : SetOperator) (left right : BracketClass)
  deriving Repr, DecidableEq

namespace SetOperator

def apply : SetOperator → Bool → Bool → Bool
  | .intersection, l, r => l && r
  | .difference, l, r => l && !r
  | .symmetricDifference, l, r => l != r

/-- The character that, written twice, stands for the operator. -/
def sign : SetOperator → Char
  | .intersection => '&'
  | .difference => '-'
  | .symmetricDifference => '~'

/-- The operator that a text starts with. -/
def ofSigns? : List Char → Option SetOperator
  | '&' :: '&' :: _ => some .intersection
  | '-' :: '-' :: _ => some .difference
  | '~' :: '~' :: _ => some .symmetricDifference
  | _ => none

end SetOperator

namespace BracketClass

def contains : BracketClass → Char → Bool
  | .empty, _ => false
  | .range first last, c => first ≤ c && c ≤ last
  | .union l r, c => l.contains c || r.contains c
  | .complement s, c => !s.contains c
  | .combined o l r, c => o.apply (l.contains c) (r.contains c)

def single (c : Char) : BracketClass := .range c c

/-! ### Writing -/

/-- Characters with a meaning of their own in a pattern. -/
def metacharacters : List Char :=
  ['\\', '.', '+', '*', '?', '(', ')', '|', '[', ']', '\x7b', '\x7d', '^', '$', '#', '&', '-', '~']

def escape (c : Char) : List Char := if c ∈ metacharacters then ['\\', c] else [c]

def written (a : Alphabet) : List Char := '[' :: (a.flatMap escape ++ [']'])

/-! ### Reading -/

/-- One literal, escaped or as it is. -/
def literal? : List Char → Option (Char × List Char)
  | [] => none
  | '\\' :: rest =>
    match rest with
    | c :: rest => if c ∈ metacharacters then some (c, rest) else none
    | [] => none
  | c :: rest => some (c, rest)

/-- One literal, or the range between two. A `-` before a `]` or another `-` starts no range. -/
def range? (s : List Char) : Option (BracketClass × List Char) :=
  match literal? s with
  | none => none
  | some (first, rest) =>
    match rest with
    | '-' :: c :: more =>
      if c = ']' ∨ c = '-' then some (single first, rest)
      else
        match literal? (c :: more) with
        | some (last, rest) => if first ≤ last then some (.range first last, rest) else none
        | none => none
    | _ => some (single first, rest)

/-- A class that is being read: what stands left of the last operator, and the items after it. -/
structure Level where
  negated : Bool
  left : Option (SetOperator × BracketClass)
  items : BracketClass

namespace Level

def add (l : Level) (item : BracketClass) : Level := { l with items := .union l.items item }

def joined (l : Level) : BracketClass :=
  match l.left with
  | some (o, s) => .combined o s l.items
  | none => l.items

def operate (l : Level) (o : SetOperator) : Level :=
  { l with left := some (o, l.joined), items := .empty }

def close (l : Level) : BracketClass := if l.negated then .complement l.joined else l.joined

/-- Reads what may only stand right after an opening bracket. -/
def opening (s : List Char) : Level × List Char :=
  match s with
  | '^' :: rest => leading true rest
  | _ => leading false s
where
  leading (negated : Bool) (s : List Char) : Level × List Char :=
    match s with
    | ']' :: rest => (⟨negated, none, single ']'⟩, rest)
    | '-' :: _ => (⟨negated, none, single '-'⟩, s.dropWhile (· = '-'))
    | _ => (⟨negated, none, .empty⟩, s)

end Level

theorem length_literal? {s rest : List Char} {c : Char} (h : literal? s = some (c, rest)) :
    rest.length < s.length := by
  unfold literal? at h
  split at h
  · simp at h
  · split at h
    · split at h
      · simp only [Option.some.injEq, Prod.mk.injEq] at h
        obtain ⟨-, rfl⟩ := h
        simp only [List.length_cons]
        omega
      · simp at h
    · simp at h
  · simp only [Option.some.injEq, Prod.mk.injEq] at h
    obtain ⟨-, rfl⟩ := h
    simp

theorem length_range? {s rest : List Char} {b : BracketClass} (h : range? s = some (b, rest)) :
    rest.length < s.length := by
  unfold range? at h
  split at h
  · simp at h
  · rename_i first tail lit
    have shorter := length_literal? lit
    split at h
    · split at h
      · simp only [Option.some.injEq, Prod.mk.injEq] at h
        exact h.2 ▸ shorter
      · split at h
        · rename_i lit'
          have shorter' := length_literal? lit'
          split at h
          · simp only [Option.some.injEq, Prod.mk.injEq] at h
            obtain ⟨-, rfl⟩ := h
            simp only [List.length_cons] at shorter shorter' ⊢
            omega
          · simp at h
        · simp at h
    · simp only [Option.some.injEq, Prod.mk.injEq] at h
      exact h.2 ▸ shorter

theorem length_opening (s : List Char) : (Level.opening s).2.length ≤ s.length := by
  have leading (n : Bool) (t : List Char) : (Level.opening.leading n t).2.length ≤ t.length := by
    unfold Level.opening.leading
    split
    · simp
    · exact (List.dropWhile_sublist _).length_le
    · simp
  unfold Level.opening
  split
  · exact Nat.le_succ_of_le (leading _ _)
  · exact leading _ _

/-- Reads the rest of an open class, given the classes around it, up to the bracket that closes the
outermost one. -/
def rest? (outer : List Level) (level : Level) (s : List Char) :
    Option (BracketClass × List Char) :=
  match s with
  | [] => none
  | c :: more =>
    if c = ']' then
      match outer with
      | [] => some (level.close, more)
      | o :: outer => rest? outer (o.add level.close) more
    else if c = '[' then
      have := length_opening more
      rest? (level :: outer) (Level.opening more).1 (Level.opening more).2
    else
      match SetOperator.ofSigns? (c :: more) with
      | some o => rest? outer (level.operate o) (more.drop 1)
      | none =>
        match h : range? (c :: more) with
        | some (item, tail) =>
          have := length_range? h
          rest? outer (level.add item) tail
        | none => none
termination_by s.length
decreasing_by all_goals simp only [List.length_cons, List.length_drop] at *; omega

/-- Reads a text that is one whole class. -/
def parse? : List Char → Option BracketClass
  | '[' :: s =>
    match rest? [] (Level.opening s).1 (Level.opening s).2 with
    | some (b, []) => some b
    | _ => none
  | _ => none

end BracketClass

end MaskedInput
