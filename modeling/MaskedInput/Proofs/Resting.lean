import MaskedInput.Proofs.Filling
import MaskedInput.Proofs.Landing
import Mathlib.Data.Nat.Find

/-! Where a caret comes to rest. Right behind a separator the repair moves it on by one, again and
again, and anywhere else it stays (`skipSeparators_of_afterSeparator`, `skipSeparators_of_not`). So
it stops at 0, behind a placeholder or behind all tokens, or else at the end of the value. A value
without the separators at its end (`trimmed`) ends behind a placeholder as well. -/

namespace MaskedInput

open Formatted

/-- A separator stands right before an offset. -/
def AfterSeparator (tokens : List Token) (offset : Nat) : Prop :=
  ∃ i l, offset = i + 1 ∧ tokens[i]? = some (.separator l)

/-- A text has a character on a placeholder at an index. -/
def IsFilled (tokens : List Token) (v : Text) (i : Nat) : Prop :=
  i < v.length ∧ ∃ k, tokens[i]? = some (.placeholder k)

/-- A text up to its last character on a placeholder. -/
def trimmed (tokens : List Token) (v : Text) : Text := v.take (reach (tokens.take v.length))

instance (tokens : List Token) (v : Text) (i : Nat) : Decidable (IsFilled tokens v i) :=
  inferInstanceAs (Decidable (_ ∧ _))

variable {tokens : List Token} {v : Text} {n i index : Nat} {k : CharClass}

theorem not_afterSeparator_zero : ¬AfterSeparator tokens 0 := by
  rintro ⟨i, l, hi, -⟩
  exact Nat.succ_ne_zero i hi.symm

theorem afterSeparator_succ_iff :
    AfterSeparator tokens (i + 1) ↔ ∃ l, tokens[i]? = some (.separator l) := by
  constructor
  · rintro ⟨j, l, hj, hl⟩
    obtain rfl : i = j := Nat.succ.inj hj
    exact ⟨l, hl⟩
  · rintro ⟨l, hl⟩
    exact ⟨i, l, rfl, hl⟩

instance (tokens : List Token) : DecidablePred (AfterSeparator tokens)
  | 0 => isFalse not_afterSeparator_zero
  | i + 1 =>
      match ht : tokens[i]? with
      | some (.separator l) => isTrue (afterSeparator_succ_iff.2 ⟨l, ht⟩)
      | some (.placeholder _) => isFalse fun h => nomatch ht ▸ afterSeparator_succ_iff.1 h
      | none => isFalse fun h => nomatch ht ▸ afterSeparator_succ_iff.1 h

theorem not_afterSeparator_of_placeholder (hi : tokens[i]? = some (.placeholder k)) :
    ¬AfterSeparator tokens (i + 1) := by
  rw [afterSeparator_succ_iff, hi]
  rintro ⟨l, hl⟩
  cases hl

theorem exists_placeholder_of_not_afterSeparator (hi : i < tokens.length)
    (h : ¬AfterSeparator tokens (i + 1)) : ∃ k, tokens[i]? = some (.placeholder k) := by
  cases ht : tokens[i] with
  | separator l =>
      apply absurd _ h
      exact afterSeparator_succ_iff.2 ⟨l, ht ▸ List.getElem?_eq_getElem hi⟩
  | placeholder k => exact ⟨k, ht ▸ List.getElem?_eq_getElem hi⟩

theorem separatorRun_drop_eq_nil_iff :
    separatorRun (tokens.drop i) = [] ↔ ¬AfterSeparator tokens (i + 1) := by
  rw [afterSeparator_succ_iff, ← List.head?_drop]
  cases tokens.drop i with
  | nil => simp [separatorRun]
  | cons t rest => cases t <;> simp [separatorRun]

theorem exists_isNextPlaceholder (hi : tokens[i]? = some (.placeholder k)) (hn : n ≤ i) :
    ∃ index j, IsNextPlaceholder tokens n index j ∧ index ≤ i := by
  have hex : ∃ index, n ≤ index ∧ ∃ j, tokens[index]? = some (.placeholder j) := ⟨i, hn, k, hi⟩
  obtain ⟨hle, j, hj⟩ := Nat.find_spec hex
  refine ⟨Nat.find hex, j, ⟨hle, hj, ?_⟩, Nat.find_min' hex ⟨hn, k, hi⟩⟩
  intro m hm hlt l hl
  exact Nat.find_min hex hlt ⟨hm, l, hl⟩

namespace Caret

/-- Right behind a separator the caret moves on. -/
theorem skipSeparators_of_afterSeparator (h : AfterSeparator tokens n) :
    skipSeparators tokens n = skipSeparators tokens (n + 1) := by
  obtain ⟨i, l, rfl, hl⟩ := h
  obtain ⟨hlt, hget⟩ := List.getElem?_eq_some_iff.1 hl
  rw [skipSeparators_succ, skipSeparators_succ, List.drop_eq_getElem_cons hlt, hget, separatorRun,
    List.length_cons]
  omega

/-- Anywhere else the caret stays. -/
theorem skipSeparators_of_not (h : ¬AfterSeparator tokens n) : skipSeparators tokens n = n := by
  cases n with
  | zero => rfl
  | succ i =>
      rw [skipSeparators_succ, separatorRun_drop_eq_nil_iff.2 h]
      rfl

theorem not_afterSeparator_skipSeparators (tokens : List Token) (n : Nat) :
    ¬AfterSeparator tokens (skipSeparators tokens n) := by
  cases n with
  | zero => exact not_afterSeparator_zero
  | succ i =>
      rw [skipSeparators_succ, Nat.add_right_comm, ← separatorRun_drop_eq_nil_iff,
        ← List.drop_drop]
      exact separatorRun_drop _

theorem lt_skipSeparators_iff : n < skipSeparators tokens n ↔ AfterSeparator tokens n := by
  by_cases h : AfterSeparator tokens n
  · rw [skipSeparators_of_afterSeparator h]
    exact iff_of_true (le_skipSeparators tokens (n + 1)) h
  · rw [skipSeparators_of_not h]
    exact iff_of_false (Nat.lt_irrefl n) h

theorem succ_lt_skipSeparators_iff :
    n + 1 < skipSeparators tokens n ↔ AfterSeparator tokens n ∧ AfterSeparator tokens (n + 1) := by
  by_cases h : AfterSeparator tokens n
  · rw [skipSeparators_of_afterSeparator h, lt_skipSeparators_iff, and_iff_right h]
  · rw [skipSeparators_of_not h]
    exact iff_of_false (by omega) fun hboth => h hboth.1

/-- Right behind a separator the caret goes over the next placeholder. -/
theorem skipSeparators_eq_of_next (h : AfterSeparator tokens n)
    (hnext : IsNextPlaceholder tokens n index k) : skipSeparators tokens n = index + 1 :=
  (skipSeparators_of_afterSeparator h).trans (skipSeparators_of_next hnext)

/-- Unless it is too far to count, the caret of a line is repaired from where it is. -/
theorem repaired_anchor {b : LineBuffer} (hb : b.caret ≤ maxOffset) (value : Text) :
    repaired tokens (Session.anchor b) value =
      min (skipSeparators tokens b.caret) value.length := by
  have hanchor : Session.anchor b = if b.caret = 0 then none else some (b.caret - 1) := rfl
  cases hc : b.caret with
  | zero => rw [hanchor, if_pos hc, repaired, Option.elim_none]
  | succ c =>
      have hne : b.caret ≠ 0 := by omega
      have hafter : after c = c + 1 := Nat.min_eq_left (hc ▸ hb)
      rw [hanchor, if_neg hne, repaired, Option.elim_some, hc, Nat.add_sub_cancel, hafter]

end Caret

/-! ### Values without the separators at their end -/

theorem length_trimmed (tokens : List Token) (v : Text) :
    (trimmed tokens v).length = reach (tokens.take v.length) := by
  have hle := reach_le_length (tokens.take v.length)
  rw [List.length_take] at hle
  rw [trimmed, List.length_take]
  omega

theorem length_trimmed_le (tokens : List Token) (v : Text) :
    (trimmed tokens v).length ≤ v.length :=
  List.length_take_le' _ _

theorem isFilled_iff : IsFilled tokens v i ↔
    ∃ k, (tokens.take v.length)[i]? = some (.placeholder k) := by
  rw [IsFilled, List.getElem?_take]
  split_ifs with hi <;> simp [hi]

theorem lt_length_trimmed_iff :
    n < (trimmed tokens v).length ↔ ∃ i, n ≤ i ∧ IsFilled tokens v i := by
  rw [length_trimmed, ← Nat.not_le, reach_le_iff]
  simp only [isFilled_iff, not_forall, Nat.not_lt]
  constructor
  · rintro ⟨i, k, hk, hn⟩
    exact ⟨i, hn, k, hk⟩
  · rintro ⟨i, hn, k, hk⟩
    exact ⟨i, k, hk, hn⟩

/-- Nothing on a placeholder is cut off. -/
theorem isFilled_trimmed_iff : IsFilled tokens (trimmed tokens v) i ↔ IsFilled tokens v i := by
  constructor
  · rintro ⟨hi, hk⟩
    exact ⟨Nat.lt_of_lt_of_le hi (length_trimmed_le tokens v), hk⟩
  · intro h
    exact ⟨lt_length_trimmed_iff.2 ⟨i, Nat.le_refl i, h⟩, h.2⟩

theorem not_afterSeparator_length_trimmed (tokens : List Token) (v : Text) :
    ¬AfterSeparator tokens (trimmed tokens v).length := by
  rw [length_trimmed]
  cases hreach : reach (tokens.take v.length) with
  | zero => exact not_afterSeparator_zero
  | succ q =>
      obtain ⟨hq, -⟩ := isLastPlaceholder_of_reach hreach
      obtain ⟨-, k, hk⟩ := isFilled_iff.2 hq
      exact not_afterSeparator_of_placeholder hk

end MaskedInput
