import Mathlib.Data.List.Induction

/-! What has happened in a history and has not been undone. Of which kind a thing is may depend on
what went before it. -/

namespace MaskedInput

variable {α : Type} {R E : List α → α → Prop} {l : List α} {a : α} {i : Nat}

/-- At a place of a history stands something of a kind. -/
def Happens (R : List α → α → Prop) (l : List α) (i : Nat) : Prop :=
  ∃ a, l[i]? = some a ∧ R (l.take i) a

/-- Something of one kind has happened, and nothing of another kind after it. -/
def Since (R E : List α → α → Prop) (l : List α) : Prop :=
  ∃ i, Happens R l i ∧ ∀ j, i < j → ¬Happens E l j

theorem Happens.lt_length (h : Happens R l i) : i < l.length := by
  obtain ⟨a, ha, -⟩ := h
  exact (List.getElem?_eq_some_iff.1 ha).1

theorem happens_append_singleton :
    Happens R (l ++ [a]) i ↔ Happens R l i ∨ i = l.length ∧ R l a := by
  rcases Nat.lt_trichotomy i l.length with hlt | rfl | hgt
  · have hne : i ≠ l.length := Nat.ne_of_lt hlt
    rw [Happens, Happens, List.getElem?_append_left hlt,
      List.take_append_of_le_length (Nat.le_of_lt hlt)]
    simp [hne]
  · simp [Happens]
  · have hnone : (l ++ [a])[i]? = none := by
      rw [List.getElem?_eq_none_iff, List.length_append, List.length_singleton]
      exact hgt
    have hnone' : l[i]? = none := List.getElem?_eq_none (Nat.le_of_lt hgt)
    rw [Happens, Happens, hnone, hnone']
    simp [Nat.ne_of_gt hgt]

theorem not_since_nil : ¬Since R E [] := by
  rintro ⟨i, hi, -⟩
  exact Nat.not_lt_zero i hi.lt_length

theorem since_append_singleton : Since R E (l ++ [a]) ↔ R l a ∨ Since R E l ∧ ¬E l a := by
  constructor
  · rintro ⟨i, hi, hlater⟩
    rcases happens_append_singleton.1 hi with hi | ⟨-, hR⟩
    · refine .inr ⟨⟨i, hi, fun j hj hE => ?_⟩, fun hE => ?_⟩
      · exact hlater j hj (happens_append_singleton.2 (.inl hE))
      · exact hlater l.length hi.lt_length (happens_append_singleton.2 (.inr ⟨rfl, hE⟩))
    · exact .inl hR
  · rintro (hR | ⟨⟨i, hi, hlater⟩, hlast⟩)
    · refine ⟨l.length, happens_append_singleton.2 (.inr ⟨rfl, hR⟩), fun j hj hE => ?_⟩
      rcases happens_append_singleton.1 hE with hE | ⟨rfl, -⟩
      · exact Nat.lt_asymm hj hE.lt_length
      · exact Nat.lt_irrefl _ hj
    · refine ⟨i, happens_append_singleton.2 (.inl hi), fun j hj hE => ?_⟩
      rcases happens_append_singleton.1 hE with hE | ⟨-, hE⟩
      · exact hlater j hj hE
      · exact hlast hE

/-- What things of one kind set and things of another clear, holds since it was set. -/
theorem iff_since {P : List α → Prop} (hnil : ¬P [])
    (hstep : ∀ l a, P (l ++ [a]) ↔ R l a ∨ P l ∧ ¬E l a) (l : List α) : P l ↔ Since R E l := by
  -- from the end of the history, where the last thing decides first
  induction l using List.reverseRecOn with
  | nil => exact iff_of_false hnil not_since_nil
  | append_singleton l a ih => rw [hstep, since_append_singleton, ih]

end MaskedInput
