import MaskedInput.Proofs.Reformatting
import MaskedInput.Proofs.Repair
import MaskedInput.Proofs.Service
import Mathlib.Data.List.Basic

/-! A caret at the end of a text. The repair starts at the length of the raw text and goes over one
run of separators, while the layout may put separators in front of every character. So the caret
comes to the end of the value when the value does not go on behind that run and the placeholder
after it (`caret_at_end_iff`): always in typing, but hardly ever when several characters arrive at
once. -/

namespace MaskedInput

open Formatted

namespace Formatted

variable {tokens : List Token} {w : Text}

theorem length_le_spread (hlen : w.length ≤ (classes tokens).length) :
    w.length ≤ (spread tokens w).length := by
  induction tokens generalizing w with
  | nil => exact Nat.le_trans hlen (Nat.zero_le _)
  | cons t tokens ih =>
      cases w with
      | nil => exact Nat.zero_le _
      | cons c w =>
          cases t with
          | separator l =>
              rw [spread_separator]
              exact Nat.le_succ_of_le (ih hlen)
          | placeholder k =>
              rw [spread_placeholder]
              exact Nat.succ_le_succ (ih (Nat.le_of_succ_le_succ hlen))

/-- A layout is no longer than its characters when there are only placeholders. -/
theorem length_spread_le_iff (hlen : w.length ≤ (classes tokens).length) :
    (spread tokens w).length ≤ w.length ↔
      ∀ i < w.length, ∃ k, tokens[i]? = some (.placeholder k) := by
  induction tokens generalizing w with
  | nil =>
      obtain rfl := List.eq_nil_of_length_eq_zero (Nat.le_zero.1 hlen)
      simp
  | cons t tokens ih =>
      cases w with
      | nil => simp
      | cons c w =>
          cases t with
          | separator l =>
              have hle : (c :: w).length ≤ (spread tokens (c :: w)).length := length_le_spread hlen
              rw [spread_separator]
              refine iff_of_false (Nat.not_le.2 (Nat.lt_succ_of_le hle)) fun h => ?_
              obtain ⟨k, hk⟩ := h 0 (Nat.succ_pos _)
              cases hk
          | placeholder k =>
              rw [spread_placeholder, List.length_cons, List.length_cons, Nat.add_le_add_iff_right,
                ih (Nat.le_of_succ_le_succ hlen)]
              constructor
              · intro h i hi
                cases i with
                | zero => exact ⟨k, rfl⟩
                | succ i => exact h i (Nat.lt_of_succ_lt_succ hi)
              · intro h i hi
                exact h (i + 1) (Nat.succ_lt_succ hi)

end Formatted

namespace Caret

/-- From the end of a text the repair starts at its length, however long the text is. -/
theorem repaired_at_end {tokens : List Token} {value : Text} (htokens : tokens.length ≤ maxOffset)
    (hvalue : value.length ≤ tokens.length) (n : Nat) :
    repaired tokens (if n = 0 then none else some (n - 1)) value =
      min value.length (skipSeparators tokens n) := by
  cases n with
  | zero => exact Nat.min_comm _ _
  | succ n =>
      rw [if_neg (Nat.succ_ne_zero n), Nat.add_sub_cancel, repaired_of_length_le htokens hvalue]

end Caret

namespace Pattern

variable {d w : Text} {cs : Bool}

/-- Characters that the placeholders hold lose nothing when separators are stripped. -/
theorem Holds.strip_eq_self (hw : (compile d).Holds cs w) : (compile d).strip w = w := by
  rw [strip_compile, List.filter_eq_self]
  exact fun c hc => by simpa using hw.not_mem_separators hc

theorem Holds.trimmed_spread (hw : (compile d).Holds cs w) :
    trimmed (compile d).tokens (spread (compile d).tokens w) = spread (compile d).tokens w := by
  have hfits := hw.fits_display false
  have hstrip := hw.strip_display false
  rw [display_false] at hfits hstrip
  rw [← format_of_strip_eq hfits (hw.strip_eq_self.trans hstrip.symm),
    format_of_holds_strip (hw.strip_eq_self.symm ▸ hw), hw.strip_eq_self]

/-- The layout of characters that the placeholders hold ends in front of where the repair comes to
exactly when all of them but the last stand where they stood. -/
theorem Holds.length_format_le_iff (hw : (compile d).Holds cs w) :
    ((compile d).format cs w).value.length ≤ Caret.skipSeparators (compile d).tokens w.length ↔
      ∀ i, i + 1 < w.length → ∃ k, (compile d).tokens[i]? = some (.placeholder k) := by
  rw [format_of_holds_strip (hw.strip_eq_self.symm ▸ hw), hw.strip_eq_self]
  rcases List.eq_nil_or_concat' w with rfl | ⟨u, c, rfl⟩
  · simp
  have hlen : u.length < (classes (compile d).tokens).length := by
    have hle := Fits.length_le hw
    rw [List.length_append, List.length_singleton] at hle
    exact hle
  have hu : (compile d).Holds cs u := by
    have htake := Fits.take hw u.length
    rwa [List.take_left] at htake
  have hlength : (spread (compile d).tokens (u ++ [c])).length =
      Caret.skipSeparators (compile d).tokens ((spread (compile d).tokens u).length + 1) := by
    rw [spread_append_singleton c hlen, List.length_append, List.length_append, runAfter,
      Caret.skipSeparators_succ, List.length_singleton]
    omega
  have hends := not_afterSeparator_length_trimmed (compile d).tokens (spread (compile d).tokens u)
  rw [hu.trimmed_spread] at hends
  simp only [hlength, List.length_append, List.length_singleton, Nat.add_lt_add_iff_right]
  rw [← length_spread_le_iff (Nat.le_of_lt hlen)]
  constructor
  · intro hle
    by_contra hnot
    have hlt : u.length + 1 ≤ (spread (compile d).tokens u).length := Nat.lt_of_not_le hnot
    have hrest := Caret.skipSeparators_le hlt hends
    have hnext := Caret.le_skipSeparators (compile d).tokens
      ((spread (compile d).tokens u).length + 1)
    omega
  · exact fun hle => Caret.skipSeparators_mono _ (Nat.succ_le_succ hle)

end Pattern

namespace Session

variable {φ : Type} [TextField φ] {f : φ}

theorem anchor_at_end (hcaret : TextField.caret? f = none ∨
      TextField.caret? f = some (TextField.text f).length) :
    anchor f = if (TextField.text f).length = 0 then none
      else some ((TextField.text f).length - 1) := by
  have hend : (TextField.caret? f).getD (TextField.text f).length = (TextField.text f).length := by
    rcases hcaret with h | h <;> rw [h] <;> rfl
  simp only [anchor, hend]

/-- **A caret at the end of a text comes to the end of the value if no more than the next
placeholder is left of it.** The caret goes from the length of the text to the first offset that is
not right behind a separator, and back to the end of a shorter value; when the value goes on there,
the caret stays inside it, right behind a placeholder. It is at the end when the value is not longer
than the text, and when the text is a layout with a character typed at its end. But characters that
arrive at once and are all taken bring it to the end only if the first separator of the mask is in
front of the last one of them, or further on. A definition has no more characters than an offset can
count, as no text in memory has. -/
theorem caret_at_end_iff [LawfulField φ] (d seen : Text) (cs : Bool) (f : φ)
    (hlen : d.length ≤ maxOffset) :
    let p := Pattern.compile d
    let s : Session := ⟨.compile d, seen, cs⟩
    let text := TextField.text f
    let told := (s.notify f).2.2
    let value := TextField.text told
    text ≠ seen → TextField.caret? f = none ∨ TextField.caret? f = some text.length →
    value = (p.format cs text).value ∧
    ∃ rest caret, IsLeast {q | text.length ≤ q ∧ ¬AfterSeparator p.tokens q} rest ∧
      LawfulField.held told = some caret ∧ (caret = value.length ↔ value.length ≤ rest) ∧
      (rest < value.length → caret = rest ∧
        ∃ i k, caret = i + 1 ∧ p.tokens[i]? = some (.placeholder k)) ∧
      (value.length ≤ text.length → caret = value.length) ∧
      (∀ t c, text = (p.format cs t).value ++ [c] → caret = value.length) ∧
      (p.Holds cs text → (caret = value.length ↔
        ∀ i, i + 1 < text.length → ∃ k, p.tokens[i]? = some (.placeholder k))) := by
  intro p s text told value hne hcaret
  have htokens : p.tokens.length ≤ maxOffset := Pattern.length_tokens_le hlen
  have hvalue : value = (p.format cs text).value := by
    have hseen : value = (s.notify f).2.1.lastValue := text_notify s f
    rw [hseen, notify_of_ne hne]
    rfl
  have hle : value.length ≤ p.tokens.length := by
    rw [hvalue]
    exact p.length_format_le cs text
  have hheld : LawfulField.held told =
      some (min value.length (Caret.skipSeparators p.tokens text.length)) := by
    have hrepaired : LawfulField.held told =
        some (Caret.repaired p.tokens (anchor f) (p.format cs text).value) := held_notify hne
    rw [hrepaired, ← hvalue, anchor_at_end hcaret, Caret.repaired_at_end htokens hle]
  have hiff : min value.length (Caret.skipSeparators p.tokens text.length) = value.length ↔
      value.length ≤ Caret.skipSeparators p.tokens text.length := by omega
  refine ⟨hvalue, _, _, Caret.isLeast_skipSeparators p.tokens text.length, hheld, hiff, ?_, ?_, ?_,
    ?_⟩
  · intro hlt
    rw [Nat.min_eq_right (Nat.le_of_lt hlt)]
    have hcases := Caret.skipSeparators_cases (Nat.lt_of_lt_of_le hlt hle)
    refine ⟨rfl, hcases.resolve_left fun hzero => ?_⟩
    -- only an empty text leaves the caret at 0, and its layout does not go on there
    have hnil : text = [] := by
      apply List.eq_nil_of_length_eq_zero
      exact Nat.le_zero.1 (hzero ▸ Caret.le_skipSeparators p.tokens text.length)
    rw [hvalue, hnil, Pattern.format_eq, Pattern.chosen_nil] at hlt
    exact Nat.not_lt_zero _ hlt
  · intro hshort
    exact hiff.2 (Nat.le_trans hshort (Caret.le_skipSeparators p.tokens text.length))
  · intro t c htext
    rw [hiff, hvalue, htext, List.length_append, List.length_singleton, Caret.skipSeparators_succ]
    exact Pattern.Typed.length_format_append_le (.inl rfl) c
  · intro hholds
    rw [hiff, hvalue]
    exact hholds.length_format_le_iff

/-- Three digits cross one dash at once, in front of the last of them, and the caret comes to the
end. -/
theorem caret_at_end_one_group :
    let d := "99-99".toList
    let p := Pattern.compile d
    let f := LineBuffer.ofText "123".toList
    let s : Session := ⟨.compile d, [], false⟩
    let told := (s.notify f).2.2
    d.length ≤ maxOffset ∧ f.text ≠ [] ∧ TextField.caret? f = some f.text.length ∧
    p.Holds false f.text ∧
    (∀ i, i + 1 < f.text.length → ∃ k, p.tokens[i]? = some (.placeholder k)) ∧
    told.text = "12-3".toList ∧ told.caret = told.text.length := by
  intro d p f s told
  have hlen : d.length ≤ maxOffset := by decide +kernel
  have hne : f.text ≠ [] := by decide +kernel
  have hcaret : TextField.caret? f = some f.text.length := rfl
  have hchosen : p.chosen false "123".toList = f.text := by decide +kernel
  have hholds : p.Holds false f.text := hchosen ▸ Pattern.holds_chosen d false "123".toList
  have hfirst : ∀ i, i + 1 < f.text.length → ∃ k, p.tokens[i]? = some (.placeholder k) := by
    intro i hi
    have htwo : ∀ j < 2, ∃ k, p.tokens[j]? = some (.placeholder k) := by decide +kernel
    have hlength : f.text.length = 3 := rfl
    exact htwo i (by omega)
  obtain ⟨-, rest, caret, -, hheld, -, -, -, -, hpasted⟩ :=
    caret_at_end_iff d [] false f hlen hne (.inr hcaret)
  have hend : told.caret = caret := Option.some.inj hheld
  exact ⟨hlen, hne, hcaret, hholds, hfirst, by decide +kernel,
    hend.trans ((hpasted hholds).2 hfirst)⟩

/-- With a fourth digit the value goes on behind the caret by one character, in a line that reports
a caret at its end and in a field that reports none. -/
theorem caret_before_end :
    let s : Session := ⟨.compile "99-99".toList, [], false⟩
    let line := LineBuffer.ofText "1234".toList
    let field : SilentField := ⟨"1234".toList, none⟩
    TextField.text line ≠ s.lastValue ∧ TextField.caret? line = some line.text.length ∧
    (s.notify line).2.2.text = "12-34".toList ∧ (s.notify line).2.2.caret = 4 ∧
    (s.notify line).2.2.caret ≠ (s.notify line).2.2.text.length ∧
    TextField.text field ≠ s.lastValue ∧ TextField.caret? field = none ∧
    (s.notify field).2.2.text = "12-34".toList ∧ (s.notify field).2.2.stored = some 4 ∧
    (s.notify field).2.2.stored ≠ some (s.notify field).2.2.text.length := by
  decide +kernel

end Session

end MaskedInput
