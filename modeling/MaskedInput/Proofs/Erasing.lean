import MaskedInput.Proofs.Removal

/-! Backspace and Delete pressed again and again. No press gives a placeholder a character that had
none, and a press on a separator puts the caret where the next one does not meet another separator
from the same side. So two Backspaces always get on (`two_backspaces`), and the caret reaches the
start. Delete gets on at a placeholder, at once or after a leap over separators. Elsewhere it jams,
which every further Delete preserves (`after_deletes_of_jams`): what it takes is laid out again. -/

namespace MaskedInput

open Formatted

/-- Delete comes to a character on a placeholder: the caret is in front of one, or it is between two
separators and one stands right behind the next placeholder. -/
def Reaches (tokens : List Token) (v : Text) (caret : Nat) : Prop :=
  IsFilled tokens v caret ∨
    (AfterSeparator tokens caret ∧ AfterSeparator tokens (caret + 1) ∧
      ∃ index c, IsNextPlaceholder tokens caret index c ∧ IsFilled tokens v (index + 1))

theorem not_reaches {tokens : List Token} {v : Text} {caret : Nat}
    (hunfilled : ¬IsFilled tokens v caret) (hafter : ¬AfterSeparator tokens caret) :
    ¬Reaches tokens v caret := by
  rintro (hfilled | hleap)
  · exact hunfilled hfilled
  · exact hafter hleap.1

/-- Delete does not come to a character on a placeholder, though there is one right of the caret as
long as the line goes on there. -/
def Jams (tokens : List Token) (v : Text) (caret : Nat) : Prop :=
  ¬Reaches tokens v caret ∧ (caret < v.length → ∃ i, caret ≤ i ∧ IsFilled tokens v i)

namespace Prompt

/-- Nothing is right of the caret for a key to remove, or a separator that is laid out again in its
place. -/
def Restores (tokens : List Token) (p : Prompt) (k : Key) : Prop :=
  p.value.length ≤ p.buffer.caret ∧ (p.press k).2 = p ∨
    ∃ l, tokens[p.buffer.caret]? = some (.separator l) ∧ p.value[p.buffer.caret]? = some l ∧
      (p.press k).2.value[p.buffer.caret]? = some l

variable {d : Text} {o : MaskOptions} {p : Prompt} {k k' : Key}

/-! ### Delete -/

/-- Right of the caret is a separator, unless there is a character on a placeholder. -/
theorem Settled.afterSeparator_of_not_isFilled (h : p.Settled d o)
    (hlt : p.buffer.caret < p.value.length)
    (hnot : ¬IsFilled (Pattern.compile d).tokens p.value p.buffer.caret) :
    AfterSeparator (Pattern.compile d).tokens (p.buffer.caret + 1) := by
  by_contra hsep
  apply hnot
  have htokens := Nat.lt_of_lt_of_le hlt h.fits.length_le
  exact ⟨hlt, exists_placeholder_of_not_afterSeparator htokens hsep⟩

/-- Having removed a separator, Delete stands in front of a character on a placeholder exactly when
it has leapt over the placeholder before it. -/
theorem Settled.isFilled_press_delete_iff (h : p.Settled d o) (hlen : d.length ≤ maxOffset)
    (hk : k.code = .delete) (hlt : p.buffer.caret < p.value.length)
    (hsep : AfterSeparator (Pattern.compile d).tokens (p.buffer.caret + 1)) :
    IsFilled (Pattern.compile d).tokens (p.press k).2.value (p.press k).2.buffer.caret ↔
      AfterSeparator (Pattern.compile d).tokens p.buffer.caret ∧
      ∃ index c, IsNextPlaceholder (Pattern.compile d).tokens p.buffer.caret index c ∧
        IsFilled (Pattern.compile d).tokens p.value (index + 1) := by
  obtain ⟨l, hl⟩ := afterSeparator_succ_iff.1 hsep
  have hremoves : k.Removes p.buffer p.buffer.caret := .delete hk rfl hlt
  obtain ⟨hvalue, -, -⟩ := h.press_removes_separator hlen hremoves hl
  have hcaret := (h.press_removes hlen hremoves).2
  rw [Pattern.format_eraseIdx_of_separator h.fits hlt hl] at hcaret
  rw [hvalue, isFilled_trimmed_iff]
  constructor
  · intro hfilled
    have hinside := (isFilled_trimmed_iff.2 hfilled).1
    have hskip : (p.press k).2.buffer.caret =
        Caret.skipSeparators (Pattern.compile d).tokens p.buffer.caret := by omega
    obtain ⟨-, c, hc⟩ := hfilled
    have hafter : AfterSeparator (Pattern.compile d).tokens p.buffer.caret := by
      by_contra hnot
      rw [hskip, Caret.skipSeparators_of_not hnot, hl] at hc
      cases hc
    have hle := Caret.le_skipSeparators (Pattern.compile d).tokens p.buffer.caret
    obtain ⟨index, c', hnext, -⟩ := exists_isNextPlaceholder hc (hskip ▸ hle)
    refine ⟨hafter, index, c', hnext, ?_⟩
    rw [← Caret.skipSeparators_eq_of_next hafter hnext, ← hskip]
    exact isFilled_trimmed_iff.1 ⟨hinside, c, hc⟩
  · rintro ⟨hafter, index, c, hnext, hfilled⟩
    have hinside := (isFilled_trimmed_iff.2 hfilled).1
    rw [Caret.skipSeparators_eq_of_next hafter hnext] at hcaret
    have hindex : (p.press k).2.buffer.caret = index + 1 := by omega
    rw [hindex]
    exact hfilled

/-- Where Delete comes to no placeholder it takes nothing from them, and it jams from then on. -/
theorem Settled.press_delete_of_not_reaches (h : p.Settled d o) (hlen : d.length ≤ maxOffset)
    (hk : k.code = .delete)
    (hnot : ¬Reaches (Pattern.compile d).tokens p.value p.buffer.caret) :
    let q := (p.press k).2
    q.filling = p.filling ∧ Jams (Pattern.compile d).tokens q.value q.buffer.caret := by
  intro q
  by_cases hlt : p.buffer.caret < p.value.length
  · obtain ⟨hunfilled, hnoleap⟩ := not_or.1 hnot
    have hsep := h.afterSeparator_of_not_isFilled hlt hunfilled
    obtain ⟨l, hl⟩ := afterSeparator_succ_iff.1 hsep
    obtain ⟨hvalue, hfilling, hafter⟩ := h.press_removes_separator hlen (.delete hk rfl hlt) hl
    refine ⟨hfilling, not_reaches ?_ hafter, ?_⟩
    · rw [h.isFilled_press_delete_iff hlen hk hlt hsep]
      exact fun hleap => hnoleap ⟨hleap.1, hsep, hleap.2⟩
    · intro hinside
      rw [hvalue] at hinside ⊢
      obtain ⟨i, hi, hfilled⟩ := lt_length_trimmed_iff.1 hinside
      exact ⟨i, hi, isFilled_trimmed_iff.2 hfilled⟩
  · have hsame : q = p := h.press_delete_at_end hk (Nat.le_of_not_lt hlt)
    rw [hsame]
    exact ⟨rfl, hnot, fun hinside => absurd hinside hlt⟩

theorem Settled.after_deletes_of_jams (h : p.Settled d o) (hlen : d.length ≤ maxOffset)
    (hjams : Jams (Pattern.compile d).tokens p.value p.buffer.caret) {deletes : List Key}
    (hdeletes : ∀ k ∈ deletes, k.code = .delete) :
    let q := p.after deletes
    q.filling = p.filling ∧ Jams (Pattern.compile d).tokens q.value q.buffer.caret := by
  induction deletes generalizing p with
  | nil => exact ⟨rfl, hjams⟩
  | cons k deletes ih =>
      have hq : (p.press k).2.Settled d o := h.press k
      obtain ⟨hfilling, hagain⟩ :=
        h.press_delete_of_not_reaches hlen (hdeletes k List.mem_cons_self) hjams.1
      rw [← hfilling]
      exact ih hq hagain fun k hk => hdeletes k (List.mem_cons_of_mem _ hk)

theorem Settled.filling_after_of_not_reaches (h : p.Settled d o) (hlen : d.length ≤ maxOffset)
    (hnot : ¬Reaches (Pattern.compile d).tokens p.value p.buffer.caret) {deletes : List Key}
    (hdeletes : ∀ k ∈ deletes, k.code = .delete) :
    (p.after deletes).filling = p.filling := by
  cases deletes with
  | nil => rfl
  | cons k deletes =>
      have hq : (p.press k).2.Settled d o := h.press k
      obtain ⟨hfilling, hjams⟩ :=
        h.press_delete_of_not_reaches hlen (hdeletes k List.mem_cons_self) hnot
      rw [← hfilling]
      exact (hq.after_deletes_of_jams hlen hjams
        fun k hk => hdeletes k (List.mem_cons_of_mem _ hk)).1

theorem Settled.restores_of_jams (h : p.Settled d o) (hlen : d.length ≤ maxOffset)
    (hk : k.code = .delete)
    (hjams : Jams (Pattern.compile d).tokens p.value p.buffer.caret) :
    p.Restores (Pattern.compile d).tokens k := by
  obtain ⟨hnot, hahead⟩ := hjams
  by_cases hlt : p.buffer.caret < p.value.length
  · have hsep := h.afterSeparator_of_not_isFilled hlt fun hfilled => hnot (.inl hfilled)
    obtain ⟨l, hl⟩ := afterSeparator_succ_iff.1 hsep
    obtain ⟨hvalue, -, -⟩ := h.press_removes_separator hlen (.delete hk rfl hlt) hl
    have hc : p.value[p.buffer.caret]? = some l := by
      have hadmits := h.fits.admits hl (List.getElem?_eq_getElem hlt)
      rw [List.getElem?_eq_getElem hlt, hadmits]
    have hinside := lt_length_trimmed_iff.2 (hahead hlt)
    refine .inr ⟨l, hl, hc, ?_⟩
    rw [length_trimmed] at hinside
    rw [hvalue, trimmed, List.getElem?_take_of_lt hinside, hc]
  · have hend := Nat.le_of_not_lt hlt
    exact .inl ⟨hend, h.press_delete_at_end hk hend⟩

theorem Settled.filling_press_delete_lt (h : p.Settled d o) (hlen : d.length ≤ maxOffset)
    (hk : k.code = .delete)
    (hfilled : IsFilled (Pattern.compile d).tokens p.value p.buffer.caret) :
    (p.press k).2.filling.length < p.filling.length := by
  obtain ⟨hlt, c, hc⟩ := hfilled
  exact h.filling_press_lt hlen (.delete hk rfl hlt) hc

theorem Settled.exists_deletes (h : p.Settled d o) (hlen : d.length ≤ maxOffset)
    (hreaches : Reaches (Pattern.compile d).tokens p.value p.buffer.caret) :
    ∃ deletes : List Key, (∀ k ∈ deletes, k.code = .delete) ∧
      (p.after deletes).filling.length < p.filling.length := by
  let k := Key.plain .delete
  rcases hreaches with hfilled | ⟨hafter, hsep, hleap⟩
  · exact ⟨[k], by simp [k, Key.plain], h.filling_press_delete_lt hlen rfl hfilled⟩
  · have hq : (p.press k).2.Settled d o := h.press k
    have hlt : p.buffer.caret < p.value.length := by
      obtain ⟨index, c, hnext, hfilled⟩ := hleap
      have hstart := hnext.start_le
      have hinside := hfilled.1
      omega
    obtain ⟨l, hl⟩ := afterSeparator_succ_iff.1 hsep
    obtain ⟨-, hfilling, -⟩ := h.press_removes_separator hlen (.delete (k := k) rfl rfl hlt) hl
    have hfilled := (h.isFilled_press_delete_iff hlen (k := k) rfl hlt hsep).2 ⟨hafter, hleap⟩
    refine ⟨[k, k], by simp [k, Key.plain], ?_⟩
    rw [← hfilling]
    exact hq.filling_press_delete_lt hlen rfl hfilled

/-- **Delete gets on exactly at a placeholder, or over separators to one.** Pressed often enough it
takes a character from a placeholder when the caret is in front of one, and when the caret is
between two separators and the placeholder behind the next one has a character. Otherwise no number
of presses takes anything from the placeholders; where there is a character on one right of the
caret, each press finds nothing to remove or a separator that is laid out again. -/
theorem deletes_remove_iff (d : Text) (o : MaskOptions) (id label : String)
    (default : Option Text) (keys : List Key) (hlen : d.length ≤ maxOffset) :
    let tokens := (Pattern.compile d).tokens
    let p := (opened id label d o default).after keys
    ((∃ deletes : List Key, (∀ k ∈ deletes, k.code = .delete) ∧
      (p.after deletes).filling.length < p.filling.length) ↔
    Reaches tokens p.value p.buffer.caret) ∧
    (¬Reaches tokens p.value p.buffer.caret →
      (∃ i, p.buffer.caret ≤ i ∧ IsFilled tokens p.value i) →
      ∀ deletes : List Key, (∀ k ∈ deletes, k.code = .delete) → ∀ k : Key, k.code = .delete →
        (p.after deletes).Restores tokens k) := by
  intro tokens p
  have h : p.Settled d o := (settled_opened id label d o default).after keys
  refine ⟨⟨?_, ?_⟩, ?_⟩
  · rintro ⟨deletes, hdeletes, hlt⟩
    by_contra hnot
    rw [h.filling_after_of_not_reaches hlen hnot hdeletes] at hlt
    exact Nat.lt_irrefl _ hlt
  · exact fun hreaches => h.exists_deletes hlen hreaches
  · intro hnot hahead deletes hdeletes k hk
    have hq : (p.after deletes).Settled d o := h.after deletes
    obtain ⟨-, hjams⟩ := h.after_deletes_of_jams hlen ⟨hnot, fun _ => hahead⟩ hdeletes
    exact hq.restores_of_jams hlen hk hjams

/-- Behind the bracket of a phone number Delete leaps over the first digit and takes the second; in
front of its dash it takes the dash again and again. -/
theorem delete_leaps :
    let d := "(999) 999-9999".toList
    let tokens := (Pattern.compile d).tokens
    let k := Key.plain .delete
    let p := (opened "" "" d ⟨false⟩ (some "5551234567".toList)).after
      (.plain .home :: List.replicate 5 (.plain .right))
    let q := (opened "" "" d ⟨false⟩ (some "5551234567".toList)).after
      (List.replicate 5 (.plain .left))
    d.length ≤ maxOffset ∧ p.buffer.caret = 5 ∧ Reaches tokens p.value p.buffer.caret ∧
    (∃ deletes : List Key, (∀ k ∈ deletes, k.code = .delete) ∧
      (p.after deletes).filling.length < p.filling.length) ∧
    (p.after [k, k]).filling = "555134567".toList ∧
    q.buffer.caret = 9 ∧ ¬Reaches tokens q.value q.buffer.caret ∧ IsFilled tokens q.value 10 ∧
    (q.after [k, k]).Restores tokens k := by
  intro d tokens k p q
  have hlen : d.length ≤ maxOffset := by decide +kernel
  have hcaret : p.buffer.caret = 5 := by decide +kernel
  have hreaches : Reaches tokens p.value p.buffer.caret :=
    .inr ⟨by decide +kernel, by decide +kernel, 6, .digit, by decide +kernel, by decide +kernel⟩
  have hiff := (deletes_remove_iff d ⟨false⟩ "" "" (some "5551234567".toList)
    (.plain .home :: List.replicate 5 (.plain .right)) hlen).1
  have hfilling : (p.after [k, k]).filling = "555134567".toList := by decide +kernel
  have hdash : q.buffer.caret = 9 := by decide +kernel
  have hnot : ¬Reaches tokens q.value q.buffer.caret :=
    not_reaches (by decide +kernel) (by decide +kernel)
  have hbehind : IsFilled tokens q.value 10 := by decide +kernel
  have hle : q.buffer.caret ≤ 10 := by omega
  have hrestores := (deletes_remove_iff d ⟨false⟩ "" "" (some "5551234567".toList)
    (List.replicate 5 (.plain .left)) hlen).2
  have hp : p = (opened "" "" d ⟨false⟩ (some "5551234567".toList)).after
    (.plain .home :: List.replicate 5 (.plain .right)) := rfl
  have hq : q = (opened "" "" d ⟨false⟩ (some "5551234567".toList)).after
    (List.replicate 5 (.plain .left)) := rfl
  rw [← hp] at hiff
  rw [← hq] at hrestores
  exact ⟨hlen, hcaret, hreaches, hiff.2 hreaches, hfilling, hdash, hnot, hbehind,
    hrestores hnot ⟨10, hle, hbehind⟩ [k, k] (by simp [k, Key.plain]) k rfl⟩

/-- In front of the dash of a full line Delete never takes one of the digits behind it. -/
theorem delete_jams :
    let d := "99-99".toList
    let tokens := (Pattern.compile d).tokens
    let p := (opened "" "" d ⟨false⟩ (some "1234".toList)).after
      [.plain .home, .plain .right, .plain .right]
    p.value = "12-34".toList ∧ p.buffer.caret = 2 ∧ IsFilled tokens p.value 3 ∧
    ¬∃ deletes : List Key, (∀ k ∈ deletes, k.code = .delete) ∧
      (p.after deletes).filling.length < p.filling.length := by
  intro d tokens p
  have hlen : d.length ≤ maxOffset := by decide +kernel
  have hcaret : p.buffer.caret = 2 := by decide +kernel
  have hvalue : p.value = "12-34".toList := by decide +kernel
  have hthird : IsFilled tokens p.value 3 := by decide +kernel
  have h : p.Settled d ⟨false⟩ := (settled_opened "" "" d ⟨false⟩ (some "1234".toList)).after
    [.plain .home, .plain .right, .plain .right]
  have hnot : ¬Reaches tokens p.value p.buffer.caret :=
    not_reaches (by decide +kernel) (by decide +kernel)
  refine ⟨hvalue, hcaret, hthird, ?_⟩
  rintro ⟨deletes, hdeletes, hlt⟩
  rw [h.filling_after_of_not_reaches hlen hnot hdeletes] at hlt
  exact Nat.lt_irrefl _ hlt

/-! ### Backspace -/

theorem Settled.length_filling_le (h : p.Settled d o) :
    p.filling.length ≤ (Pattern.compile d).placeholderCount := by
  rw [h.filling_eq, ← length_classes]
  exact Fits.length_le (Pattern.holds_strip h.fits)

/-- A line with nothing on its placeholders is empty. -/
theorem Settled.caret_of_filling_eq_nil (h : p.Settled d o) (hnil : p.filling = []) :
    p.buffer.caret = 0 := by
  have hvalue : p.value = [] := by
    refine h.covers.resolve_right ?_
    rintro ⟨i, c, hi, hc⟩
    have hadmits := h.fits.admits hc (List.getElem?_eq_getElem hi)
    have hmem : p.value[i] ∈ p.filling := by
      rw [h.filling_eq, Pattern.strip_compile]
      exact List.mem_filter.2 ⟨List.getElem_mem hi, decide_eq_true hadmits.2⟩
    rw [hnil] at hmem
    cases hmem
  have hcaret : p.buffer.caret ≤ p.value.length := p.buffer.caret_le
  rw [hvalue] at hcaret
  exact Nat.le_zero.1 hcaret

theorem Settled.after_backspaces_at_start (h : p.Settled d o) (hcaret : p.buffer.caret = 0)
    {backspaces : List Key} (hbackspaces : ∀ k ∈ backspaces, k.code = .backspace) :
    p.after backspaces = p := by
  induction backspaces with
  | nil => rfl
  | cons k backspaces ih =>
      have hsame := h.press_backspace_at_start (hbackspaces k List.mem_cons_self) hcaret
      have hrest := ih fun k hk => hbackspaces k (List.mem_cons_of_mem _ hk)
      rw [Prompt.after, List.foldl_cons, hsame]
      exact hrest

/-- Two Backspaces bring the caret to the start or take a character from a placeholder. -/
theorem Settled.two_backspaces (h : p.Settled d o) (hlen : d.length ≤ maxOffset)
    (hk : k.code = .backspace) (hk' : k'.code = .backspace) :
    let q := (p.press k).2
    (q.press k').2.buffer.caret = 0 ∨
      (q.press k').2.filling.length < p.filling.length := by
  intro q
  have hq : q.Settled d o := h.press k
  have hle : (q.press k').2.filling.length ≤ q.filling.length :=
    hq.filling_press_le hlen (.inl hk')
  cases hc : p.buffer.caret with
  | zero =>
      have hsame : q = p := h.press_backspace_at_start hk hc
      left
      rw [hsame, h.press_backspace_at_start hk' hc, hc]
  | succ i =>
      have hremoves : k.Removes p.buffer i := .backspace hk hc
      obtain ⟨t, ht, -⟩ := h.fits.exists_admits (List.getElem?_eq_getElem hremoves.lt_length)
      cases t with
      | placeholder c =>
          right
          have hlt : q.filling.length < p.filling.length := h.filling_press_lt hlen hremoves ht
          omega
      | separator l =>
          obtain ⟨-, hfilling, hafter⟩ := h.press_removes_separator hlen hremoves ht
          -- behind the removed separator stands no other one, so the second press gets on
          cases hc' : q.buffer.caret with
          | zero =>
              left
              rw [hq.press_backspace_at_start hk' hc', hc']
          | succ j =>
              right
              have hremoves' : k'.Removes q.buffer j := .backspace hk' hc'
              have hj : j < (Pattern.compile d).tokens.length :=
                Nat.lt_of_lt_of_le hremoves'.lt_length hq.fits.length_le
              obtain ⟨c, hc⟩ := exists_placeholder_of_not_afterSeparator hj (hc' ▸ hafter)
              have hlt := hq.filling_press_lt hlen hremoves' hc
              exact Nat.lt_of_lt_of_eq hlt (congrArg List.length hfilling)

theorem Settled.caret_after_backspaces (h : p.Settled d o) (hlen : d.length ≤ maxOffset) {n : Nat}
    (hn : p.filling.length ≤ n) {backspaces : List Key}
    (hbackspaces : ∀ k ∈ backspaces, k.code = .backspace) (hlong : 2 * n ≤ backspaces.length) :
    (p.after backspaces).buffer.caret = 0 := by
  -- two presses at a time, each pair with one character less on the placeholders
  induction n generalizing p backspaces with
  | zero =>
      have hcaret := h.caret_of_filling_eq_nil (List.eq_nil_of_length_eq_zero (Nat.le_zero.1 hn))
      rw [h.after_backspaces_at_start hcaret hbackspaces, hcaret]
  | succ n ih =>
      obtain _ | ⟨k, _ | ⟨k', backspaces⟩⟩ := backspaces
      · simp at hlong
      · simp only [List.length_cons, List.length_nil] at hlong
        omega
      · have hk : k.code = .backspace := hbackspaces k (by simp)
        have hk' : k'.code = .backspace := hbackspaces k' (by simp)
        have hrest : ∀ k ∈ backspaces, k.code = .backspace := fun k hk =>
          hbackspaces k (by simp [hk])
        have hr : ((p.press k).2.press k').2.Settled d o := (h.press k).press k'
        have htwo : p.after (k :: k' :: backspaces) =
            ((p.press k).2.press k').2.after backspaces := rfl
        rw [htwo]
        rcases h.two_backspaces hlen hk hk' with hstart | hlt
        · rw [hr.after_backspaces_at_start hstart hrest, hstart]
        · refine ih hr (by omega) hrest ?_
          simp only [List.length_cons] at hlong
          omega

/-- **Backspace always reaches the start.** Twice as many presses as there are placeholders, or more,
bring the caret to 0, and no press gives a placeholder a character that had none. A definition has
no more characters than an offset can count, as no text in memory has. -/
theorem backspaces_reach_start (d : Text) (o : MaskOptions) (id label : String)
    (default : Option Text) (keys : List Key) (hlen : d.length ≤ maxOffset) :
    let p := (opened id label d o default).after keys
    (∀ backspaces : List Key, (∀ k ∈ backspaces, k.code = .backspace) →
      2 * (Pattern.compile d).placeholderCount ≤ backspaces.length →
      (p.after backspaces).buffer.caret = 0) ∧
    ∀ k : Key, k.code = .backspace → (p.press k).2.filling.length ≤ p.filling.length := by
  intro p
  have h : p.Settled d o := (settled_opened id label d o default).after keys
  constructor
  · intro backspaces hbackspaces hlong
    exact h.caret_after_backspaces hlen h.length_filling_le hbackspaces hlong
  · intro k hk
    exact h.filling_press_le hlen (.inl hk)

/-- Behind two dashes the first Backspace goes to the right, and four reach the start. -/
theorem backspaces_over_dashes :
    let d := "9--9".toList
    let k := Key.plain .backspace
    let p := (opened "" "" d ⟨false⟩ (some "12".toList)).after
      (.plain .home :: List.replicate 3 (.plain .right))
    d.length ≤ maxOffset ∧ p.value = "1--2".toList ∧ p.buffer.caret = 3 ∧
    (p.press k).2.buffer.caret = 4 ∧ k.code = .backspace ∧
    2 * (Pattern.compile d).placeholderCount ≤ (List.replicate 4 k).length ∧
    (p.after (List.replicate 4 k)).buffer.caret = 0 ∧
    (p.press k).2.filling.length ≤ p.filling.length := by
  intro d k p
  have hlen : d.length ≤ maxOffset := by decide +kernel
  have hlong : 2 * (Pattern.compile d).placeholderCount ≤ (List.replicate 4 k).length := by
    decide +kernel
  have hbackspaces : ∀ j ∈ List.replicate 4 k, j.code = .backspace := by decide
  have hreach := backspaces_reach_start d ⟨false⟩ "" "" (some "12".toList)
    (.plain .home :: List.replicate 3 (.plain .right)) hlen
  have hp : p = (opened "" "" d ⟨false⟩ (some "12".toList)).after
    (.plain .home :: List.replicate 3 (.plain .right)) := rfl
  rw [← hp] at hreach
  obtain ⟨hstart, hless⟩ := hreach
  exact ⟨hlen, by decide +kernel, by decide +kernel, by decide +kernel, rfl, hlong,
    hstart _ hbackspaces hlong, hless k rfl⟩

end Prompt

end MaskedInput
