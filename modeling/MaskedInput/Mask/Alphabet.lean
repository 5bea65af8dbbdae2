/-! Alphabets: sets of characters, each listed once and in ascending order. -/

namespace MaskedInput

abbrev Alphabet := List Char

namespace Alphabet

def insert (c : Char) : Alphabet → Alphabet
  | [] => [c]
  | d :: rest => if c < d then c :: d :: rest else if c = d then d :: rest else d :: insert c rest

def ofList (cs : List Char) : Alphabet := cs.foldr insert []

@[simp] theorem mem_insert {x c : Char} {a : Alphabet} : x ∈ insert c a ↔ x = c ∨ x ∈ a := by
  induction a with
  | nil => simp [insert]
  | cons d rest ih =>
    unfold insert
    split
    · simp
    · split
      · rename_i eq
        simp [eq]
      · simp [ih, or_left_comm]

@[simp] theorem mem_ofList {x : Char} {cs : List Char} : x ∈ ofList cs ↔ x ∈ cs := by
  induction cs with
  | nil => simp [ofList]
  | cons c rest ih =>
    simp only [ofList, List.foldr_cons, mem_insert, List.mem_cons] at ih ⊢
    rw [ih]

end Alphabet

end MaskedInput
