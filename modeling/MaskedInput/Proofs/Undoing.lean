import MaskedInput.Proofs.Removal

/-! Backspace at the end of a line. A fitting line without its last character is laid out as it is,
only without the separators at its new end (`press_backspace_at_end`). So the press takes either the
separators at the end or the last placeholder's character with the separators in front of it. These
are what a typed character has put there (`press_types_at_end`), and the press undoes it. -/

namespace MaskedInput

open Formatted

/-- There are no separators to cut off behind a character on a placeholder. -/
theorem trimmed_eq_self {tokens : List Token} {v : Text}
    (h : v = [] ∨ IsFilled tokens v (v.length - 1)) : trimmed tokens v = v := by
  rcases h with rfl | hlast
  · exact List.take_nil
  · have hlt : v.length - 1 < (trimmed tokens v).length :=
      lt_length_trimmed_iff.2 ⟨v.length - 1, Nat.le_refl _, hlast⟩
    rw [length_trimmed] at hlt
    exact List.take_of_length_le (by omega)

namespace Pattern

variable {d v : Text} {cs : Bool} {c : Char} {k : CharClass} {index : Nat}

/-- Behind a line that fits, the next placeholder takes a typed character, and nothing else changes
but for the separators in front of it. -/
theorem format_append_of_next (hv : Fits ((compile d).Admits cs) (compile d).tokens v)
    (hnext : IsNextPlaceholder (compile d).tokens v.length index k)
    (hc : c ∉ (compile d).separators) (hk : k.accepts cs c = true) :
    ((compile d).format cs (v ++ [c])).value =
      v ++ separatorRun ((compile d).tokens.drop v.length) ++ [c] := by
  have hstrip : (compile d).strip (v ++ [c]) = (compile d).strip v ++ [c] := by
    rw [strip_append, strip_singleton hc]
  have hchosen : (compile d).chosen cs (v ++ [c]) = (compile d).strip v ++ [c] := by
    have hnil : (compile d).strip [] = [] := strip_compile d []
    rw [chosen_insert hv hnext hc hk [], hnil, taken_nil]
  have hholds : (compile d).Holds cs ((compile d).strip (v ++ [c])) := by
    rw [hstrip, ← hchosen]
    exact holds_chosen d cs (v ++ [c])
  rw [format_of_holds_strip hholds, hstrip, spread_insert hv hnext c [], spread_nil]

/-- The separators behind a line that fits are cut off again. -/
theorem trimmed_append_separatorRun (hv : Fits ((compile d).Admits cs) (compile d).tokens v) :
    trimmed (compile d).tokens (v ++ separatorRun ((compile d).tokens.drop v.length)) =
      trimmed (compile d).tokens v := by
  have hfits : Fits ((compile d).Admits cs) (compile d).tokens
      (v ++ separatorRun ((compile d).tokens.drop v.length)) :=
    hv.append (fits_separatorRun fun _ _ => rfl)
  have hstrip : (compile d).strip (v ++ separatorRun ((compile d).tokens.drop v.length)) =
      (compile d).strip v := by
    rw [strip_append, strip_separatorRun, List.append_nil]
  rw [← format_of_strip_eq hfits rfl, format_of_strip_eq hv hstrip]

end Pattern

namespace Prompt

variable {d : Text} {o : MaskOptions} {p : Prompt} {k : Key} {c : Char} {charClass : CharClass}
  {index : Nat}

/-- A line that does not end in separators ends on a placeholder. -/
theorem Settled.isFilled_last (h : p.Settled d o) (hne : p.value ≠ [])
    (hsep : ¬AfterSeparator (Pattern.compile d).tokens p.value.length) :
    IsFilled (Pattern.compile d).tokens p.value (p.value.length - 1) := by
  have hpos : 0 < p.value.length := List.length_pos_iff.2 hne
  have hlast : p.value.length - 1 + 1 = p.value.length := Nat.sub_add_cancel hpos
  have hlt : p.value.length - 1 < (Pattern.compile d).tokens.length := by
    have hle := h.fits.length_le
    omega
  exact ⟨by omega, exists_placeholder_of_not_afterSeparator hlt (hlast.symm ▸ hsep)⟩

/-- Backspace at the end of a line takes its last character and the separators that are then at its
end. -/
theorem Settled.press_backspace_at_end (h : p.Settled d o) (hlen : d.length ≤ maxOffset)
    (hk : k.code = .backspace) (hend : p.buffer.caret = p.value.length) (hne : p.value ≠ []) :
    let q := (p.press k).2
    q.value = trimmed (Pattern.compile d).tokens p.value.dropLast ∧
      q.buffer.caret = q.value.length := by
  intro q
  have hpos : 0 < p.value.length := List.length_pos_iff.2 hne
  have hremoves : k.Removes p.buffer (p.value.length - 1) := .backspace hk (by omega)
  obtain ⟨hvalue, hcaret⟩ := h.press_removes hlen hremoves
  have hfits : Fits ((Pattern.compile d).Admits o.caseSensitive) (Pattern.compile d).tokens
      p.value.dropLast := by
    rw [List.dropLast_eq_take]
    exact h.fits.take _
  rw [List.eraseIdx_length_sub_one, Pattern.format_of_strip_eq hfits rfl] at hvalue hcaret
  refine ⟨hvalue, ?_⟩
  have hle := length_trimmed_le (Pattern.compile d).tokens p.value.dropLast
  rw [List.length_dropLast] at hle
  have hskip := Caret.le_skipSeparators (Pattern.compile d).tokens (p.value.length - 1)
  rw [show q.value = _ from hvalue, show q.buffer.caret = _ from hcaret]
  omega

/-- Separators at the end of a line all go at once. -/
theorem Settled.press_backspace_after_separator (h : p.Settled d o) (hlen : d.length ≤ maxOffset)
    (hk : k.code = .backspace) (hend : p.buffer.caret = p.value.length)
    (hsep : AfterSeparator (Pattern.compile d).tokens p.value.length) :
    (p.press k).2.value = trimmed (Pattern.compile d).tokens p.value := by
  obtain ⟨i, l, hi, hl⟩ := hsep
  exact (h.press_removes_separator hlen (.backspace hk (hend.trans hi)) hl).1

/-- A character typed at the end of a line stays at its end. -/
theorem Settled.press_types_at_end (h : p.Settled d o) (hlen : d.length ≤ maxOffset)
    (hcode : k.code = .char c) (hplain : k.isControl = false)
    (hend : p.buffer.caret = p.value.length)
    (hnext : IsNextPlaceholder (Pattern.compile d).tokens p.value.length index charClass)
    (hc : c ∉ (Pattern.compile d).separators)
    (hk : charClass.accepts o.caseSensitive c = true) :
    let q := (p.press k).2
    q.value = p.value ++ separatorRun ((Pattern.compile d).tokens.drop p.value.length) ++ [c] ∧
      q.buffer.caret = q.value.length := by
  intro q
  obtain ⟨-, hvalue, hcaret⟩ := h.press_writes hcode hplain
  have hformat := Pattern.format_append_of_next h.fits hnext hc hk
  rw [hend, List.take_length, List.drop_length, hformat] at hvalue hcaret
  have hlength : (p.value ++ separatorRun ((Pattern.compile d).tokens.drop p.value.length) ++
      [c]).length = index + 1 := by
    rw [List.length_append, List.length_append, hnext.length_separatorRun_eq,
      Nat.add_sub_cancel' hnext.start_le]
    rfl
  refine ⟨hvalue, ?_⟩
  rw [show q.value = _ from hvalue, hlength, show q.buffer.caret = _ from hcaret]
  exact Caret.repaired_of_next (Pattern.length_tokens_le hlen) hnext (by omega)

/-- Typing a character behind a placeholder or on an empty line, and Backspace, change nothing. -/
theorem Settled.press_undoes (h : p.Settled d o) (hlen : d.length ≤ maxOffset)
    (hcode : k.code = .char c) (hplain : k.isControl = false)
    (hend : p.buffer.caret = p.value.length)
    (hlast : p.value = [] ∨ IsFilled (Pattern.compile d).tokens p.value (p.value.length - 1))
    (hnext : IsNextPlaceholder (Pattern.compile d).tokens p.value.length index charClass)
    (hc : c ∉ (Pattern.compile d).separators)
    (hk : charClass.accepts o.caseSensitive c = true) {back : Key}
    (hback : back.code = .backspace) :
    let r := ((p.press k).2.press back).2
    r.value = p.value ∧ r.buffer.caret = p.value.length := by
  intro r
  have hq : (p.press k).2.Settled d o := h.press k
  obtain ⟨htyped, htypedEnd⟩ := h.press_types_at_end hlen hcode hplain hend hnext hc hk
  have hne : (p.press k).2.value ≠ [] := by
    rw [htyped]
    simp
  obtain ⟨hvalue, hcaret⟩ := hq.press_backspace_at_end hlen hback htypedEnd hne
  have hcut : trimmed (Pattern.compile d).tokens (p.press k).2.value.dropLast = p.value := by
    rw [htyped, List.dropLast_concat, Pattern.trimmed_append_separatorRun h.fits]
    exact trimmed_eq_self hlast
  have hsame : r.value = p.value := hvalue.trans hcut
  exact ⟨hsame, hcaret.trans (congrArg List.length hsame)⟩

/-- **Backspace at the end of a line undoes.** The caret stays at the end. Separators at the end of
the line go all at once; otherwise the last placeholder's character goes, with the separators in
front of it. So when the line is empty or ends on a placeholder, Backspace after a character that the
next placeholder takes leaves the line and the caret as they were before both. A definition has no
more characters than an offset can count, as no text in memory has. -/
theorem backspace_undoes (d : Text) (o : MaskOptions) (id label : String) (default : Option Text)
    (keys : List Key) (hlen : d.length ≤ maxOffset) (back : Key) :
    let tokens := (Pattern.compile d).tokens
    let p := (opened id label d o default).after keys
    let q := (p.press back).2
    back.code = .backspace → p.buffer.caret = p.value.length →
    (p.value ≠ [] → q.buffer.caret = q.value.length ∧
      (AfterSeparator tokens p.value.length → q.value = trimmed tokens p.value) ∧
      (¬AfterSeparator tokens p.value.length →
        IsFilled tokens p.value (p.value.length - 1) ∧
        q.value = trimmed tokens p.value.dropLast)) ∧
    ∀ (k : Key) (c : Char) (index : Nat) (charClass : CharClass),
      k.code = .char c → k.isControl = false →
      p.value = [] ∨ IsFilled tokens p.value (p.value.length - 1) →
      IsNextPlaceholder tokens p.value.length index charClass →
      c ∉ (Pattern.compile d).separators → charClass.accepts o.caseSensitive c = true →
      let r := ((p.press k).2.press back).2
      r.value = p.value ∧ r.buffer.caret = p.buffer.caret := by
  intro tokens p q hback hend
  have h : p.Settled d o := (settled_opened id label d o default).after keys
  constructor
  · intro hne
    obtain ⟨hvalue, hcaret⟩ := h.press_backspace_at_end hlen hback hend hne
    exact ⟨hcaret, h.press_backspace_after_separator hlen hback hend, fun hsep =>
      ⟨h.isFilled_last hne hsep, hvalue⟩⟩
  · intro k c index charClass hcode hplain hlast hnext hc hk
    rw [hend]
    exact h.press_undoes hlen hcode hplain hend hlast hnext hc hk hback

/-- A phone number with both separators behind its area code loses them at once. From there the next
Backspace takes a digit, and a digit that is typed and taken back leaves nothing behind. -/
theorem backspace_behind_area :
    let d := "(999) 999-9999".toList
    let tokens := (Pattern.compile d).tokens
    let back := Key.plain .backspace
    let k := Key.plain (.char '1')
    let p := (opened "" "" d ⟨false⟩ none).after (Key.ofText "555x".toList)
    let q := (p.press back).2
    d.length ≤ maxOffset ∧ p.value = "(555) ".toList ∧ p.buffer.caret = p.value.length ∧
    AfterSeparator tokens p.value.length ∧ q.value = trimmed tokens p.value ∧
    q.value = "(555".toList ∧ q.buffer.caret = q.value.length ∧
    ¬AfterSeparator tokens q.value.length ∧
    (q.press back).2.value = trimmed tokens q.value.dropLast ∧
    (q.press back).2.value = "(55".toList ∧
    IsNextPlaceholder tokens q.value.length 6 .digit ∧ (q.press k).2.value = "(555) 1".toList ∧
    ((q.press k).2.press back).2.value = q.value ∧
    ((q.press k).2.press back).2.buffer.caret = q.buffer.caret := by
  intro d tokens back k p q
  have hlen : d.length ≤ maxOffset := by decide +kernel
  have hvalue : p.value = "(555) ".toList := by decide +kernel
  have hend : p.buffer.caret = p.value.length := by decide +kernel
  have hsep : AfterSeparator tokens p.value.length := by decide +kernel
  have hcut : q.value = "(555".toList := by decide +kernel
  have hcutEnd : q.buffer.caret = q.value.length := by decide +kernel
  have hnot : ¬AfterSeparator tokens q.value.length := by decide +kernel
  have hlast : IsFilled tokens q.value (q.value.length - 1) := by decide +kernel
  have hnext : IsNextPlaceholder tokens q.value.length 6 .digit := by decide +kernel
  have hone : '1' ∉ (Pattern.compile d).separators := by decide +kernel
  have htaken : CharClass.digit.accepts false '1' = true := by decide +kernel
  have hfirst := backspace_undoes d ⟨false⟩ "" "" none (Key.ofText "555x".toList) hlen back
  have hsecond :=
    backspace_undoes d ⟨false⟩ "" "" none (Key.ofText "555x".toList ++ [back]) hlen back
  have hp : p = (opened "" "" d ⟨false⟩ none).after (Key.ofText "555x".toList) := rfl
  have hq : q = (p.press back).2 := rfl
  have hafter : p.after [back] = q := rfl
  rw [← hp] at hfirst
  rw [after_append, ← hp, hafter] at hsecond
  dsimp only at hfirst hsecond
  rw [← hq] at hfirst
  obtain ⟨hstays, hseps, -⟩ := (hfirst rfl hend).1 (by decide +kernel)
  obtain ⟨-, -, hdigit⟩ := (hsecond rfl hcutEnd).1 (by decide +kernel)
  obtain ⟨hsame, hback⟩ :=
    (hsecond rfl hcutEnd).2 k '1' 6 .digit rfl rfl (.inr hlast) hnext hone htaken
  exact ⟨hlen, hvalue, hend, hsep, hseps hsep, hcut, hstays, hnot, (hdigit hnot).2,
    by decide +kernel, hnext, by decide +kernel, hsame, hback⟩

end Prompt

end MaskedInput
