import MaskedInput.Mask.Pattern

/-! Texts that follow a list from its first element on, each character as its element asks. -/

namespace MaskedInput

/-- A text whose characters suit the first elements of a list, in order. -/
inductive Fits {α : Type} (R : α → Char → Prop) : List α → Text → Prop
  | nil (as : List α) : Fits R as []
  | cons {a : α} {c : Char} {as : List α} {v : Text} (head : R a c) (tail : Fits R as v) :
      Fits R (a :: as) (c :: v)

namespace Fits

variable {α : Type} {R : α → Char → Prop} {as : List α} {u v : Text}

theorem length_le (h : Fits R as v) : v.length ≤ as.length := by
  induction h with
  | nil as => exact Nat.zero_le _
  | cons head tail ih => exact Nat.succ_le_succ ih

theorem admits (h : Fits R as v) {i : Nat} {a : α} {c : Char} (ha : as[i]? = some a)
    (hc : v[i]? = some c) : R a c := by
  induction h generalizing i with
  | nil as => simp at hc
  | cons head tail ih =>
      cases i with
      | zero =>
          rw [List.getElem?_cons_zero, Option.some.injEq] at ha hc
          exact ha ▸ hc ▸ head
      | succ i =>
          rw [List.getElem?_cons_succ] at ha hc
          exact ih ha hc

theorem of_admits (hlen : v.length ≤ as.length)
    (h : ∀ (i : Nat) a c, as[i]? = some a → v[i]? = some c → R a c) : Fits R as v := by
  induction v generalizing as with
  | nil => exact .nil as
  | cons c v ih =>
      cases as with
      | nil => simp at hlen
      | cons a as =>
          refine .cons (h 0 a c rfl rfl) (ih (Nat.le_of_succ_le_succ hlen) ?_)
          intro i b d hb hd
          exact h (i + 1) b d hb hd

/-- A text that fits goes on with one that fits what is left of the list. -/
theorem append (hu : Fits R as u) (hv : Fits R (as.drop u.length) v) : Fits R as (u ++ v) := by
  induction hu with
  | nil as => exact hv
  | cons head tail ih => exact .cons head (ih hv)

theorem take (h : Fits R as v) (n : Nat) : Fits R as (v.take n) := by
  induction h generalizing n with
  | nil as =>
      rw [List.take_nil]
      exact .nil as
  | cons head tail ih =>
      cases n with
      | zero => exact .nil _
      | succ n => exact .cons head (ih n)

theorem drop (h : Fits R as v) (n : Nat) : Fits R (as.drop n) (v.drop n) := by
  induction h generalizing n with
  | nil as =>
      rw [List.drop_nil]
      exact .nil _
  | cons head tail ih =>
      cases n with
      | zero => exact .cons head tail
      | succ n => exact ih n

theorem mono {S : α → Char → Prop} (hRS : ∀ a c, R a c → S a c) (h : Fits R as v) :
    Fits S as v := by
  induction h with
  | nil as => exact .nil as
  | cons head tail ih => exact .cons (hRS _ _ head) ih

theorem and {P : Char → Prop} (h : Fits R as v) (hP : ∀ c ∈ v, P c) :
    Fits (fun a c => R a c ∧ P c) as v := by
  induction h with
  | nil as => exact .nil as
  | cons head tail ih =>
      exact .cons ⟨head, hP _ List.mem_cons_self⟩
        (ih fun c hc => hP c (List.mem_cons_of_mem _ hc))

theorem exists_admits (h : Fits R as v) {i : Nat} {c : Char} (hc : v[i]? = some c) :
    ∃ a, as[i]? = some a ∧ R a c := by
  have hlt : i < as.length := Nat.lt_of_lt_of_le (List.getElem?_eq_some_iff.1 hc).1 h.length_le
  exact ⟨as[i], List.getElem?_eq_getElem hlt, h.admits (List.getElem?_eq_getElem hlt) hc⟩

theorem exists_of_mem (h : Fits R as v) {c : Char} (hc : c ∈ v) : ∃ a ∈ as, R a c := by
  obtain ⟨i, hi⟩ := List.mem_iff_getElem?.1 hc
  obtain ⟨a, ha, hR⟩ := h.exists_admits hi
  exact ⟨a, List.mem_of_getElem? ha, hR⟩

end Fits

end MaskedInput
