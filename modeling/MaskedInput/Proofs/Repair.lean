import MaskedInput.Proofs.Resting
import Mathlib.Order.Bounds.Basic

/-! The repair of a caret in numbers. Going on over separators leads to the first offset that is not
right behind one (`isLeast_skipSeparators`), so a caret that starts further right never ends further
left. Done step by step on offsets that are words, it takes no more steps than there are tokens, and
no step leaves the words (`walk?_eq`). -/

namespace MaskedInput

open Formatted

variable {tokens : List Token} {n m : Nat}

theorem AfterSeparator.le_length (h : AfterSeparator tokens n) : n ≤ tokens.length := by
  obtain ⟨i, l, rfl, hl⟩ := h
  exact (List.getElem?_eq_some_iff.1 hl).1

/-- An offset after the start is behind no separator when it is beyond the tokens or right behind a
placeholder. -/
theorem not_afterSeparator_iff (hn : 0 < n) :
    ¬AfterSeparator tokens n ↔
      tokens.length < n ∨ ∃ k, tokens[n - 1]? = some (.placeholder k) := by
  obtain ⟨i, rfl⟩ := Nat.exists_eq_add_of_lt hn
  rw [Nat.zero_add, Nat.add_sub_cancel]
  constructor
  · intro h
    by_cases hi : i < tokens.length
    · exact .inr (exists_placeholder_of_not_afterSeparator hi h)
    · exact .inl (by omega)
  · rintro (hbeyond | ⟨k, hk⟩)
    · exact fun h => absurd h.le_length (Nat.not_le.2 hbeyond)
    · exact not_afterSeparator_of_placeholder hk

namespace Caret

theorem skipSeparators_le (hle : n ≤ m) (hm : ¬AfterSeparator tokens m) :
    skipSeparators tokens n ≤ m := by
  -- from `m` backwards: in front of it, each offset is left for the one after it or stays
  induction hle using Nat.decreasingInduction with
  | self => exact Nat.le_of_eq (skipSeparators_of_not hm)
  | of_succ n hlt ih =>
      by_cases hn : AfterSeparator tokens n
      · rw [skipSeparators_of_afterSeparator hn]
        exact ih
      · rw [skipSeparators_of_not hn]
        exact Nat.le_of_lt hlt

/-- A caret goes on to the first offset from its own on that is not right behind a separator. -/
theorem isLeast_skipSeparators (tokens : List Token) (n : Nat) :
    IsLeast {q | n ≤ q ∧ ¬AfterSeparator tokens q} (skipSeparators tokens n) :=
  ⟨⟨le_skipSeparators tokens n, not_afterSeparator_skipSeparators tokens n⟩,
    fun _ hq => skipSeparators_le hq.1 hq.2⟩

theorem skipSeparators_mono (tokens : List Token) (h : m ≤ n) :
    skipSeparators tokens m ≤ skipSeparators tokens n :=
  skipSeparators_le (Nat.le_trans h (le_skipSeparators tokens n))
    (not_afterSeparator_skipSeparators tokens n)

theorem skipSeparators_le_add (tokens : List Token) (n : Nat) :
    skipSeparators tokens n ≤ n + tokens.length := by
  cases n with
  | zero => exact Nat.zero_le _
  | succ n =>
      have hrun := (List.takeWhile_sublist (l := tokens.drop n) Token.isSeparator).length_le
      rw [List.length_drop] at hrun
      rw [skipSeparators_succ, length_separatorRun]
      omega

/-- Where a caret goes on to, told by the tokens. -/
theorem isLeast_rest (tokens : List Token) (hn : 0 < n) :
    IsLeast {q | n ≤ q ∧ (tokens.length < q ∨ ∃ k, tokens[q - 1]? = some (.placeholder k))}
      (skipSeparators tokens n) := by
  have hset : {q | n ≤ q ∧ (tokens.length < q ∨ ∃ k, tokens[q - 1]? = some (.placeholder k))} =
      {q | n ≤ q ∧ ¬AfterSeparator tokens q} := by
    ext q
    refine and_congr_right fun hq => ?_
    exact (not_afterSeparator_iff (Nat.lt_of_lt_of_le hn hq)).symm
  rw [hset]
  exact isLeast_skipSeparators tokens n

/-- The repair step by step: right behind a separator the caret goes on by one. There is no result
when the steps do not suffice, or when a caret on the last offset of all would have to go on. -/
def walk? (tokens : List Token) : Nat → Nat → Option Nat
  | 0, caret => if AfterSeparator tokens caret then none else some caret
  | steps + 1, caret =>
    if AfterSeparator tokens caret then
      if caret < maxOffset then walk? tokens steps (caret + 1) else none
    else some caret

/-- A walk with steps enough comes to where the caret is put, and never to the last offset. -/
theorem walk?_eq (hlen : tokens.length < maxOffset) {steps : Nat}
    (hsteps : skipSeparators tokens n ≤ n + steps) :
    walk? tokens steps n = some (skipSeparators tokens n) := by
  induction steps generalizing n with
  | zero =>
      have hn : ¬AfterSeparator tokens n := by
        rw [← lt_skipSeparators_iff]
        omega
      rw [walk?, if_neg hn, skipSeparators_of_not hn]
  | succ steps ih =>
      rw [walk?]
      by_cases hn : AfterSeparator tokens n
      · have hlt : n < maxOffset := Nat.lt_of_le_of_lt hn.le_length hlen
        have hskip := skipSeparators_of_afterSeparator hn
        rw [if_pos hn, if_pos hlt, hskip]
        exact ih (by omega)
      · rw [if_neg hn, skipSeparators_of_not hn]

theorem repaired_some (tokens : List Token) (anchor : Nat) (value : Text) :
    repaired tokens (some anchor) value =
      min value.length (skipSeparators tokens (after anchor)) :=
  Nat.min_comm _ _

theorem repaired_mono (tokens : List Token) {a b : Nat} (h : a ≤ b) (value : Text) :
    repaired tokens (some a) value ≤ repaired tokens (some b) value := by
  have hafter : after a ≤ after b := by
    simp only [after]
    omega
  have hskip := skipSeparators_mono tokens hafter
  rw [repaired_some, repaired_some]
  omega

theorem skipSeparators_cases (hlt : skipSeparators tokens n < tokens.length) :
    skipSeparators tokens n = 0 ∨
      ∃ i k, skipSeparators tokens n = i + 1 ∧ tokens[i]? = some (.placeholder k) := by
  have hnot := not_afterSeparator_skipSeparators tokens n
  cases hrest : skipSeparators tokens n with
  | zero => exact .inl rfl
  | succ i =>
      obtain ⟨k, hk⟩ := exists_placeholder_of_not_afterSeparator (by omega) (hrest ▸ hnot)
      exact .inr ⟨i, k, rfl, hk⟩

/-- A repaired caret is at the start or at the end, or right behind a placeholder. -/
theorem repaired_cases {anchor : Option Nat} {value : Text}
    (hvalue : value.length ≤ tokens.length) :
    repaired tokens anchor value = 0 ∨ repaired tokens anchor value = value.length ∨
      ∃ i k, repaired tokens anchor value = i + 1 ∧ tokens[i]? = some (.placeholder k) := by
  cases anchor with
  | none => exact .inl (Nat.zero_min _)
  | some a =>
      rw [repaired_some]
      rcases Nat.lt_or_ge (skipSeparators tokens (after a)) value.length with hlt | hle
      · rw [Nat.min_eq_right (Nat.le_of_lt hlt)]
        exact (skipSeparators_cases (Nat.lt_of_lt_of_le hlt hvalue)).imp_right .inr
      · exact .inr (.inl (Nat.min_eq_left hle))

end Caret

namespace Pattern

theorem length_format_le (p : Pattern) (cs : Bool) (raw : Text) :
    (p.format cs raw).value.length ≤ p.tokens.length := by
  have htaken : Fits (fun _ _ => True) (classes p.tokens) (p.chosen cs raw) :=
    (fits_taken _ _).mono fun _ _ _ => trivial
  have hfits : Fits (fun _ _ => True) p.tokens (p.format cs raw).value := by
    rw [format_eq]
    exact fits_display _ (fun _ _ => trivial) htaken
  exact hfits.length_le

/-- **A repaired caret comes to rest at the first place for it.** Without an anchor the caret is 0.
With one it goes from the offset after the anchor, or from the last offset there is, to the first
offset that is beyond the tokens or right behind a placeholder, and back to the end of a shorter
value. The way there has no more steps than there are tokens, and each of them leads to an offset: a
definition has fewer characters than there are offsets, as any text in memory has. A later anchor
never puts the caret further left, and the caret is always at the start, at the end or right behind
a placeholder. -/
theorem apply_repairs (p : Pattern) (cs : Bool) (previous current : Text)
    (hne : current ≠ previous) :
    let value := (p.format cs current).value
    ∃ caret : Option Nat → Nat,
      (∀ anchor, p.apply cs previous current anchor = .reformatted value (caret anchor)) ∧
      caret none = 0 ∧
      (∀ a, ∃ rest,
        IsLeast {q | min (a + 1) maxOffset ≤ q ∧
          (p.tokens.length < q ∨ ∃ k, p.tokens[q - 1]? = some (.placeholder k))} rest ∧
        (p.tokens.length < maxOffset →
          Caret.walk? p.tokens p.tokens.length (min (a + 1) maxOffset) = some rest) ∧
        caret (some a) = min value.length rest) ∧
      (∀ a b, a ≤ b → caret (some a) ≤ caret (some b)) ∧
      ∀ anchor, caret anchor = 0 ∨ caret anchor = value.length ∨
        ∃ i k, caret anchor = i + 1 ∧ p.tokens[i]? = some (.placeholder k) := by
  intro value
  have hvalue : value.length ≤ p.tokens.length := p.length_format_le cs current
  refine ⟨fun anchor => Caret.repaired p.tokens anchor value, fun anchor => ?_, Nat.zero_min _,
    fun a => ?_, fun a b hab => Caret.repaired_mono p.tokens hab value,
    fun anchor => Caret.repaired_cases hvalue⟩
  · rw [apply, if_neg hne]
  · have hpos : 0 < min (a + 1) maxOffset := Nat.lt_min.2 ⟨Nat.succ_pos a, by decide⟩
    refine ⟨Caret.skipSeparators p.tokens (min (a + 1) maxOffset), Caret.isLeast_rest _ hpos,
      fun hlen => ?_, Caret.repaired_some p.tokens a value⟩
    exact Caret.walk?_eq hlen (Caret.skipSeparators_le_add p.tokens _)

/-- Typed behind the first digit, the second one goes over two dashes, and so does the caret. From
the last offset there is, the caret comes back to the same place. -/
theorem repaired_over_dashes :
    let p := compile "9--9".toList
    let value := "1--2".toList
    p.tokens.length < maxOffset ∧ "12".toList ≠ "1".toList ∧
    ∃ caret : Option Nat → Nat,
      (∀ anchor, p.apply false "1".toList "12".toList anchor =
        .reformatted value (caret anchor)) ∧
      (∃ rest,
        IsLeast {q | min (1 + 1) maxOffset ≤ q ∧
          (p.tokens.length < q ∨ ∃ k, p.tokens[q - 1]? = some (.placeholder k))} rest ∧
        Caret.walk? p.tokens p.tokens.length (min (1 + 1) maxOffset) = some rest ∧
        caret (some 1) = min value.length rest) ∧
      caret none = 0 ∧ caret (some 1) = 4 ∧ caret (some 1) ≤ caret (some maxOffset) ∧
      caret (some maxOffset) = 4 := by
  intro p value
  have hlen : p.tokens.length < maxOffset := by decide +kernel
  have hne : "12".toList ≠ "1".toList := by decide
  have hvalue : (p.format false "12".toList).value = value := by decide +kernel
  obtain ⟨caret, hcaret, hnone, hrest, hmono, -⟩ :=
    apply_repairs p false "1".toList "12".toList hne
  rw [hvalue] at hcaret hrest
  obtain ⟨rest, hleast, hwalk, hmin⟩ := hrest 1
  have hone : Outcome.reformatted value (caret (some 1)) = .reformatted value 4 :=
    (hcaret (some 1)).symm.trans (by decide +kernel)
  have hlast : Outcome.reformatted value (caret (some maxOffset)) = .reformatted value 4 :=
    (hcaret (some maxOffset)).symm.trans (by decide +kernel)
  exact ⟨hlen, hne, caret, hcaret, ⟨rest, hleast, hwalk hlen, hmin⟩, hnone,
    (Outcome.reformatted.inj hone).2, hmono 1 maxOffset (by decide),
    (Outcome.reformatted.inj hlast).2⟩

end Pattern

end MaskedInput
