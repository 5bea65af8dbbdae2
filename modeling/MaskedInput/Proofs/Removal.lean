import MaskedInput.Proofs.Refusal
import MaskedInput.Proofs.Resting

/-! What the removal of a character does to a line. A separator that is removed is written again, so
only the separators at the end of the line are lost (`format_eraseIdx_of_separator`); a character on
a placeholder is gone. In both cases the caret is repaired from where the character was, by the rule
for a typed one, and the rule goes from behind a separator to behind the next placeholder: this is
how a removal can move the caret to the right (`caret_right_iff`). -/

namespace MaskedInput

open Formatted

/-- A key that removes the character at an index of a line: the one before the caret, or the one
behind it. -/
inductive Key.Removes (b : LineBuffer) (k : Key) (i : Nat) : Prop
  | backspace (code : k.code = .backspace) (caret : b.caret = i + 1)
  | delete (code : k.code = .delete) (caret : b.caret = i) (found : i < b.text.length)

theorem Key.Removes.lt_length {b : LineBuffer} {k : Key} {i : Nat} (h : k.Removes b i) :
    i < b.text.length := by
  cases h with
  | backspace code caret =>
      have hle := b.caret_le
      omega
  | delete code caret found => exact found

/-! ### The layout without a character -/

namespace Pattern

variable {d v : Text} {cs : Bool} {i : Nat} {l : Char} {k : CharClass}

theorem strip_eraseIdx (d v : Text) (i : Nat) :
    (compile d).strip (v.eraseIdx i) =
      (compile d).strip (v.take i) ++ (compile d).strip (v.drop (i + 1)) := by
  rw [List.eraseIdx_eq_take_drop_succ, strip_append]

theorem strip_eq_around (d : Text) (hi : i < v.length) :
    (compile d).strip v = (compile d).strip (v.take i) ++
      ((compile d).strip [v[i]] ++ (compile d).strip (v.drop (i + 1))) := by
  rw [← strip_append, ← strip_append, List.singleton_append, ← List.drop_eq_getElem_cons hi,
    List.take_append_drop]

theorem strip_eraseIdx_of_separator (hv : Fits ((compile d).Admits cs) (compile d).tokens v)
    (hi : i < v.length) (hl : (compile d).tokens[i]? = some (.separator l)) :
    (compile d).strip (v.eraseIdx i) = (compile d).strip v := by
  have hc : v[i] = l := hv.admits hl (List.getElem?_eq_getElem hi)
  have hmem : v[i] ∈ (compile d).separators := by
    rw [hc]
    exact eachSeparator_compile d l (List.mem_of_getElem? hl)
  rw [strip_eq_around d hi, strip_singleton_of_mem hmem, strip_eraseIdx, List.nil_append]

theorem length_strip_eraseIdx_lt (hv : Fits ((compile d).Admits cs) (compile d).tokens v)
    (hi : i < v.length) (hk : (compile d).tokens[i]? = some (.placeholder k)) :
    ((compile d).strip (v.eraseIdx i)).length < ((compile d).strip v).length := by
  have hc : v[i] ∉ (compile d).separators := (hv.admits hk (List.getElem?_eq_getElem hi)).2
  rw [strip_eq_around d hi, strip_singleton hc, strip_eraseIdx, List.length_append,
    List.length_append, List.length_append, List.length_singleton]
  omega

/-- A fitting text without separators in between is laid out without those at its end. -/
theorem format_of_strip_eq {raw : Text}
    (hv : Fits ((compile d).Admits cs) (compile d).tokens v)
    (hraw : (compile d).strip raw = (compile d).strip v) :
    ((compile d).format cs raw).value = trimmed (compile d).tokens v := by
  have hholds : (compile d).Holds cs ((compile d).strip raw) := by
    rw [hraw]
    exact holds_strip hv
  rw [format_of_holds_strip hholds, hraw, strip_compile, trimmed]
  exact spread_filter (eachSeparator_compile d) hv

/-- A separator that is removed is written again. -/
theorem format_eraseIdx_of_separator (hv : Fits ((compile d).Admits cs) (compile d).tokens v)
    (hi : i < v.length) (hl : (compile d).tokens[i]? = some (.separator l)) :
    ((compile d).format cs (v.eraseIdx i)).value = trimmed (compile d).tokens v :=
  format_of_strip_eq hv (strip_eraseIdx_of_separator hv hi hl)

theorem length_chosen_le (d : Text) (cs : Bool) (raw : Text) :
    ((compile d).chosen cs raw).length ≤ ((compile d).strip raw).length :=
  (taken_sublist _ _).length_le

end Pattern

/-! ### A key that removes -/

namespace Prompt

variable {d : Text} {o : MaskOptions} {p : Prompt} {k : Key} {i : Nat} {l : Char} {c : CharClass}

/-- The characters of the line that stand on placeholders. -/
def filling (p : Prompt) : Text := onPlaceholders p.session.mask.pattern.tokens p.value

theorem Settled.filling_eq (h : p.Settled d o) : p.filling = (Pattern.compile d).strip p.value := by
  rw [filling, h.mask_eq, Mask.pattern_compile, Pattern.strip_compile]
  exact Pattern.onPlaceholders_eq_filter (Pattern.eachSeparator_compile d) h.fits

theorem Settled.length_le_maxOffset (h : p.Settled d o) (hlen : d.length ≤ maxOffset) :
    p.value.length ≤ maxOffset :=
  Nat.le_trans h.fits.length_le (Pattern.length_tokens_le hlen)

theorem press_of_removes (hk : k.Removes p.buffer i) :
    p.press k =
      (.editing, notify { p with buffer := p.buffer.remove i hk.lt_length, refused := false }) := by
  apply act_of_edit
  rw [Action.ofKey]
  cases hk with
  | backspace code caret =>
      obtain rfl : i = p.buffer.caret - 1 := by omega
      rw [code]
      exact dif_neg (by omega)
  | delete code caret found =>
      obtain rfl : i = p.buffer.caret := caret.symm
      rw [code]
      exact dif_neg (Nat.not_le.2 found)

/-- A line without a character is laid out, and the caret repaired from where the character was. -/
theorem Settled.press_removes (h : p.Settled d o) (hlen : d.length ≤ maxOffset)
    (hk : k.Removes p.buffer i) :
    let value := ((Pattern.compile d).format o.caseSensitive (p.value.eraseIdx i)).value
    (p.press k).2.value = value ∧
      (p.press k).2.buffer.caret =
        min (Caret.skipSeparators (Pattern.compile d).tokens i) value.length := by
  intro value
  have hi : i < p.value.length := hk.lt_length
  have htext : (p.buffer.remove i hk.lt_length).text = p.value.eraseIdx i := by
    rw [LineBuffer.text_remove, ← List.eraseIdx_eq_take_drop_succ]
    rfl
  have hne : (p.buffer.remove i hk.lt_length).text ≠ p.value := by
    intro heq
    have hlength := congrArg List.length heq
    rw [htext, List.length_eraseIdx_of_lt hi] at hlength
    omega
  have hcaret : (p.buffer.remove i hk.lt_length).caret ≤ maxOffset := by
    have hvalue := h.length_le_maxOffset hlen
    show i ≤ maxOffset
    omega
  obtain ⟨hvalue, hrepaired⟩ := h.notify_lays_out hne false
  rw [Caret.repaired_anchor hcaret] at hrepaired
  rw [htext] at hvalue hrepaired
  rw [press_of_removes hk]
  exact ⟨hvalue, hrepaired⟩

theorem Settled.press_of_edit?_eq_none (h : p.Settled d o)
    (hk : k.code = .backspace ∨ k.code = .delete)
    (hnone : (Action.ofKey k).edit? p.buffer = none) : (p.press k).2 = p := by
  have haction : Action.ofKey k = .backspace ∨ Action.ofKey k = .delete := by
    rw [Action.ofKey]
    rcases hk with hk | hk <;> simp [hk]
  rw [Prompt.press]
  rcases haction with ha | ha <;> rw [ha] at hnone ⊢ <;>
    rw [act_of_move (by simp) (by simp) hnone] <;> exact notify_of_eq h.lastValue_eq.symm

theorem Settled.press_backspace_at_start (h : p.Settled d o) (hk : k.code = .backspace)
    (hcaret : p.buffer.caret = 0) : (p.press k).2 = p := by
  apply h.press_of_edit?_eq_none (.inl hk)
  rw [Action.ofKey, hk, ← Option.not_isSome_iff_eq_none, edit?_backspace_isSome_iff]
  omega

theorem Settled.press_delete_at_end (h : p.Settled d o) (hk : k.code = .delete)
    (hcaret : p.value.length ≤ p.buffer.caret) : (p.press k).2 = p := by
  apply h.press_of_edit?_eq_none (.inr hk)
  rw [Action.ofKey, hk, ← Option.not_isSome_iff_eq_none, edit?_delete_isSome_iff]
  exact Nat.not_lt.2 hcaret

/-- Backspace and Delete remove a character, or find none and leave the prompt alone. -/
theorem Settled.press_finds (h : p.Settled d o)
    (hk : k.code = .backspace ∨ k.code = .delete) :
    (∃ i, k.Removes p.buffer i) ∨ (p.press k).2 = p := by
  rcases hk with hk | hk
  · cases hc : p.buffer.caret with
    | zero => exact .inr (h.press_backspace_at_start hk hc)
    | succ i => exact .inl ⟨i, .backspace hk hc⟩
  · by_cases hlt : p.buffer.caret < p.value.length
    · exact .inl ⟨p.buffer.caret, .delete hk rfl hlt⟩
    · exact .inr (h.press_delete_at_end hk (Nat.le_of_not_lt hlt))

/-- Removing a separator takes nothing from the placeholders, and the caret does not stop behind
another one. -/
theorem Settled.press_removes_separator (h : p.Settled d o) (hlen : d.length ≤ maxOffset)
    (hk : k.Removes p.buffer i) (hl : (Pattern.compile d).tokens[i]? = some (.separator l)) :
    let q := (p.press k).2
    q.value = trimmed (Pattern.compile d).tokens p.value ∧ q.filling = p.filling ∧
      ¬AfterSeparator (Pattern.compile d).tokens q.buffer.caret := by
  intro q
  have hq : q.Settled d o := h.press k
  have hi : i < p.value.length := hk.lt_length
  have hstrip := Pattern.strip_eraseIdx_of_separator h.fits hi hl
  have hformat := Pattern.format_eraseIdx_of_separator h.fits hi hl
  obtain ⟨hvalue, hcaret⟩ := h.press_removes hlen hk
  refine ⟨hvalue.trans hformat, ?_, ?_⟩
  · rw [hq.filling_eq, hvalue, Pattern.strip_format, Pattern.chosen, hstrip, h.filling_eq]
    exact taken_of_fits (Pattern.holds_strip h.fits).accepted
  · rw [hcaret, hformat]
    rcases Nat.le_total (Caret.skipSeparators (Pattern.compile d).tokens i)
      (trimmed (Pattern.compile d).tokens p.value).length with hle | hle
    · rw [Nat.min_eq_left hle]
      exact Caret.not_afterSeparator_skipSeparators _ i
    · rw [Nat.min_eq_right hle]
      exact not_afterSeparator_length_trimmed _ _

/-- Removing a character from a placeholder leaves fewer of them; some others may find no place. -/
theorem Settled.filling_press_lt (h : p.Settled d o) (hlen : d.length ≤ maxOffset)
    (hk : k.Removes p.buffer i) (hc : (Pattern.compile d).tokens[i]? = some (.placeholder c)) :
    (p.press k).2.filling.length < p.filling.length := by
  have hq : (p.press k).2.Settled d o := h.press k
  calc (p.press k).2.filling.length
      = ((Pattern.compile d).chosen o.caseSensitive (p.value.eraseIdx i)).length := by
        rw [hq.filling_eq, (h.press_removes hlen hk).1, Pattern.strip_format]
    _ ≤ ((Pattern.compile d).strip (p.value.eraseIdx i)).length := Pattern.length_chosen_le _ _ _
    _ < ((Pattern.compile d).strip p.value).length :=
        Pattern.length_strip_eraseIdx_lt h.fits hk.lt_length hc
    _ = p.filling.length := by rw [h.filling_eq]

theorem Settled.filling_press_le (h : p.Settled d o) (hlen : d.length ≤ maxOffset)
    (hk : k.code = .backspace ∨ k.code = .delete) :
    (p.press k).2.filling.length ≤ p.filling.length := by
  rcases h.press_finds hk with ⟨i, hi⟩ | hsame
  · obtain ⟨t, ht, -⟩ := h.fits.exists_admits (List.getElem?_eq_getElem hi.lt_length)
    cases t with
    | separator l => rw [(h.press_removes_separator hlen hi ht).2.1]
    | placeholder c => exact Nat.le_of_lt (h.filling_press_lt hlen hi ht)
  · rw [hsame]

/-! ### When the caret moves to the right -/

theorem Settled.lt_caret_backspace_iff (h : p.Settled d o) (hlen : d.length ≤ maxOffset)
    (hk : k.code = .backspace) :
    p.buffer.caret < (p.press k).2.buffer.caret ↔
      (AfterSeparator (Pattern.compile d).tokens (p.buffer.caret - 1) ∧
        AfterSeparator (Pattern.compile d).tokens p.buffer.caret) ∧
      ∃ i, p.buffer.caret ≤ i ∧ IsFilled (Pattern.compile d).tokens p.value i := by
  cases hc : p.buffer.caret with
  | zero =>
      rw [h.press_backspace_at_start hk hc, hc]
      exact iff_of_false (Nat.lt_irrefl 0) fun hsep => not_afterSeparator_zero hsep.1.1
  | succ i =>
      have hremoves : k.Removes p.buffer i := .backspace hk hc
      rw [(h.press_removes hlen hremoves).2, Nat.lt_min, Caret.succ_lt_skipSeparators_iff,
        Nat.add_sub_cancel]
      refine and_congr_right fun hsep => ?_
      obtain ⟨l, hl⟩ := afterSeparator_succ_iff.1 hsep.2
      rw [Pattern.format_eraseIdx_of_separator h.fits hremoves.lt_length hl]
      exact lt_length_trimmed_iff

theorem Settled.lt_caret_delete_iff (h : p.Settled d o) (hlen : d.length ≤ maxOffset)
    (hk : k.code = .delete) :
    p.buffer.caret < (p.press k).2.buffer.caret ↔
      AfterSeparator (Pattern.compile d).tokens p.buffer.caret ∧
        p.buffer.caret < (p.press k).2.value.length := by
  by_cases hlt : p.buffer.caret < p.value.length
  · obtain ⟨hvalue, hcaret⟩ := h.press_removes hlen (.delete hk rfl hlt)
    rw [hcaret, hvalue, Nat.lt_min, Caret.lt_skipSeparators_iff]
  · rw [h.press_delete_at_end hk (Nat.le_of_not_lt hlt)]
    exact iff_of_false (Nat.lt_irrefl _) fun hboth => hlt hboth.2

/-- A caret that moves to the right goes over the next placeholder. -/
theorem Settled.caret_right_eq (h : p.Settled d o) (hlen : d.length ≤ maxOffset)
    (hk : k.code = .backspace ∨ k.code = .delete)
    (hright : p.buffer.caret < (p.press k).2.buffer.caret) :
    ∃ index c, IsNextPlaceholder (Pattern.compile d).tokens p.buffer.caret index c ∧
      (p.press k).2.buffer.caret = index + 1 := by
  obtain ⟨i, hi⟩ : ∃ i, k.Removes p.buffer i := by
    refine (h.press_finds hk).resolve_right fun hsame => ?_
    rw [hsame] at hright
    exact Nat.lt_irrefl _ hright
  obtain ⟨hvalue, hcaret⟩ := h.press_removes hlen hi
  rw [← hvalue] at hcaret
  obtain ⟨hskip, hlength⟩ := Nat.lt_min.1 (hcaret ▸ hright)
  -- the skip starts right behind a separator, and ends where it would from the old caret
  have hafter : AfterSeparator (Pattern.compile d).tokens p.buffer.caret ∧
      Caret.skipSeparators (Pattern.compile d).tokens i =
        Caret.skipSeparators (Pattern.compile d).tokens p.buffer.caret := by
    cases hi with
    | backspace code caret =>
        rw [caret] at hskip ⊢
        obtain ⟨hi, hsep⟩ := Caret.succ_lt_skipSeparators_iff.1 hskip
        exact ⟨hsep, Caret.skipSeparators_of_afterSeparator hi⟩
    | delete code caret found =>
        rw [caret] at hskip ⊢
        exact ⟨Caret.lt_skipSeparators_iff.1 hskip, rfl⟩
  -- the new line has a character on a placeholder at the old caret or after it
  have hfilled : ∃ j, p.buffer.caret ≤ j ∧
      IsFilled (Pattern.compile d).tokens (p.press k).2.value j := by
    obtain ⟨t, ht, -⟩ := h.fits.exists_admits (List.getElem?_eq_getElem hi.lt_length)
    cases t with
    | separator l =>
        rw [(h.press_removes_separator hlen hi ht).1] at hlength ⊢
        simp only [isFilled_trimmed_iff]
        exact lt_length_trimmed_iff.1 hlength
    | placeholder c =>
        cases hi with
        | backspace code caret =>
            rw [caret] at hafter
            exact absurd hafter.1 (not_afterSeparator_of_placeholder ht)
        | delete code caret found =>
            rw [caret] at hlength ⊢
            exact ⟨i, Nat.le_refl i, hlength, c, ht⟩
  obtain ⟨j, hj, hjlt, c, hc⟩ := hfilled
  obtain ⟨index, c', hnext, hle⟩ := exists_isNextPlaceholder hc hj
  refine ⟨index, c', hnext, ?_⟩
  rw [hcaret, hafter.2, Caret.skipSeparators_eq_of_next hafter.1 hnext]
  omega

/-- **A removal moves the caret to the right only from behind a separator.** Backspace does so from
behind two separators when a placeholder further right has a character, and Delete from right behind
a separator when the new line still goes on at the caret; the caret then goes over the next
placeholder and ends up right behind it. In all other states a removal leaves the caret where it is
or to the left of it. A definition has no more characters than an offset can count, as no text in
memory has. -/
theorem caret_right_iff (d : Text) (o : MaskOptions) (id label : String) (default : Option Text)
    (keys : List Key) (hlen : d.length ≤ maxOffset) (k : Key) :
    let tokens := (Pattern.compile d).tokens
    let p := (opened id label d o default).after keys
    let q := (p.press k).2
    (k.code = .backspace →
      (p.buffer.caret < q.buffer.caret ↔
        (AfterSeparator tokens (p.buffer.caret - 1) ∧ AfterSeparator tokens p.buffer.caret) ∧
        ∃ i, p.buffer.caret ≤ i ∧ IsFilled tokens p.value i)) ∧
    (k.code = .delete →
      (p.buffer.caret < q.buffer.caret ↔
        AfterSeparator tokens p.buffer.caret ∧ p.buffer.caret < q.value.length)) ∧
    (k.code = .backspace ∨ k.code = .delete → p.buffer.caret < q.buffer.caret →
      ∃ index c, IsNextPlaceholder tokens p.buffer.caret index c ∧
        q.buffer.caret = index + 1) := by
  intro tokens p q
  have h : p.Settled d o := (settled_opened id label d o default).after keys
  refine ⟨fun hk => ?_, fun hk => ?_, fun hk hright => ?_⟩
  · exact h.lt_caret_backspace_iff hlen hk
  · exact h.lt_caret_delete_iff hlen hk
  · exact h.caret_right_eq hlen hk hright

/-- In front of the same digit Delete removes it and puts the caret over the next one, which has
taken its place. -/
theorem delete_over_digit :
    let d := "(999) 999-9999".toList
    let tokens := (Pattern.compile d).tokens
    let p := (opened "" "" d ⟨false⟩ (some "5551234567".toList)).after
      (.plain .home :: List.replicate 6 (.plain .right))
    let k : Key := ⟨.delete, { alt := true }⟩
    let q := (p.press k).2
    d.length ≤ maxOffset ∧ k.code = .delete ∧ p.buffer.caret = 6 ∧
    AfterSeparator tokens p.buffer.caret ∧ q.value = "(555) 234-567".toList ∧
    p.buffer.caret < q.buffer.caret ∧
    ∃ index c, IsNextPlaceholder tokens p.buffer.caret index c ∧ q.buffer.caret = index + 1 := by
  intro d tokens p k q
  have hlen : d.length ≤ maxOffset := by decide +kernel
  have hcaret : p.buffer.caret = 6 := by decide +kernel
  have hvalue : q.value = "(555) 234-567".toList := by decide +kernel
  have hafter : AfterSeparator tokens p.buffer.caret := by decide +kernel
  have hgoes : p.buffer.caret < q.value.length := by decide +kernel
  have hright := caret_right_iff d ⟨false⟩ "" "" (some "5551234567".toList)
    (.plain .home :: List.replicate 6 (.plain .right)) hlen k
  have hp : p = (opened "" "" d ⟨false⟩ (some "5551234567".toList)).after
    (.plain .home :: List.replicate 6 (.plain .right)) := rfl
  have hq : q = (p.press k).2 := rfl
  rw [← hp] at hright
  dsimp only at hright
  rw [← hq] at hright
  obtain ⟨-, hdelete, hnext⟩ := hright
  have hlt := (hdelete rfl).2 ⟨hafter, hgoes⟩
  exact ⟨hlen, rfl, hcaret, hafter, hvalue, hlt, hnext (.inr rfl) hlt⟩

/-- Between the bracket and the first digit of a phone number stand two separators: Backspace, right
behind them, removes nothing and puts the caret over the digit. -/
theorem backspace_over_digit :
    let p := (opened "" "" "(999) 999-9999".toList ⟨false⟩ (some "5551234567".toList)).after
      (.plain .home :: List.replicate 6 (.plain .right))
    let q := (p.press (.plain .backspace)).2
    p.value = "(555) 123-4567".toList ∧ p.buffer.caret = 6 ∧
    q.value = p.value ∧ q.buffer.caret = 7 ∧ ¬q.buffer.caret ≤ p.buffer.caret := by
  decide +kernel

end Prompt

end MaskedInput
