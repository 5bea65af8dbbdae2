/-! Tables over code points. A `RangeTable` lists inclusive ranges in ascending order; a list of
`ShiftRun`s lists runs of every `step`-th code point, each moved by one distance. Both lookups stop
at the first entry beyond the code point asked for. -/

namespace MaskedInput

/-- Text as its characters; every count, caret and column of this library is in characters. -/
abbrev Text := List Char

/-- An inclusive range of code points. -/
structure CodeRange where
  first : Nat
  last : Nat
  deriving Repr, DecidableEq

namespace CodeRange

def Contains (r : CodeRange) (n : Nat) : Prop := r.first ≤ n ∧ n ≤ r.last

instance (r : CodeRange) (n : Nat) : Decidable (r.Contains n) :=
  inferInstanceAs (Decidable (_ ∧ _))

end CodeRange

/-- Ranges in ascending order. -/
abbrev RangeTable := List CodeRange

namespace RangeTable

def contains : RangeTable → Nat → Bool
  | [], _ => false
  | r :: rest, n => if n < r.first then false else n ≤ r.last || contains rest n

/-- Adds a code point below all others. -/
def addFirst (n : Nat) : RangeTable → RangeTable
  | [] => [⟨n, n⟩]
  | r :: rest => if r.first = n + 1 then ⟨n, r.last⟩ :: rest else ⟨n, n⟩ :: r :: rest

/-- The code points from `first` to `last` that have a property, in ranges as long as possible. -/
def select (p : Nat → Bool) (first last : Nat) : RangeTable :=
  (List.range' first (last + 1 - first)).foldr (fun n t => if p n then addFirst n t else t) []

end RangeTable

/-- The code points `first, first + step, …, last`, moved so that `first` becomes `target`. -/
structure ShiftRun where
  first : Nat
  last : Nat
  step : Nat
  target : Nat
  deriving Repr, DecidableEq

namespace ShiftRun

def Contains (r : ShiftRun) (n : Nat) : Prop :=
  r.first ≤ n ∧ n ≤ r.last ∧ (n - r.first) % r.step = 0

instance (r : ShiftRun) (n : Nat) : Decidable (r.Contains n) :=
  inferInstanceAs (Decidable (_ ∧ _ ∧ _))

def image (r : ShiftRun) (n : Nat) : Nat := r.target + (n - r.first)

/-- Where the runs move a code point, if one of them holds it. -/
def move : List ShiftRun → Nat → Option Nat
  | [], _ => none
  | r :: rest, n =>
    if n < r.first then none else if r.Contains n then some (r.image n) else move rest n

theorem exists_of_move {runs : List ShiftRun} {n m : Nat} (h : move runs n = some m) :
    ∃ r ∈ runs, r.Contains n ∧ r.image n = m := by
  induction runs with
  | nil => simp [move] at h
  | cons r rest ih =>
    unfold move at h
    split at h
    · simp at h
    · split at h
      · rename_i inside
        exact ⟨r, List.mem_cons_self, inside, Option.some.inj h⟩
      · obtain ⟨s, mem, found⟩ := ih h
        exact ⟨s, List.mem_cons_of_mem _ mem, found⟩

end ShiftRun

end MaskedInput
