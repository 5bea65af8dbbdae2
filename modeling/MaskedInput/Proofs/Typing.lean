import MaskedInput.Proofs.Completeness
import MaskedInput.Proofs.Editing
import Mathlib.Data.List.Induction

/-! Typing a text character by character. Each character meets the layout of those before it, from
which stripping gets back what the placeholders took (`Typed`). So the line goes through the layouts
of the beginnings of the text, and the caret stays behind it. Only a separator typed after a
rejected character makes a difference: it takes the separators at the end away again. -/

namespace MaskedInput

open Formatted

/-! ### Layouts that grow by a character -/

namespace Formatted

variable {tokens : List Token} {w : Text}

theorem length_separatorRun (tokens : List Token) :
    (separatorRun tokens).length = (tokens.takeWhile Token.isSeparator).length := by
  induction tokens with
  | nil => rfl
  | cons t tokens ih =>
      cases t with
      | separator l => rw [separatorRun, List.takeWhile_cons_of_pos rfl, List.length_cons, ih]; rfl
      | placeholder k => rfl

/-- No separator follows a whole run of them. -/
theorem separatorRun_drop (tokens : List Token) :
    separatorRun (tokens.drop (separatorRun tokens).length) = [] := by
  induction tokens with
  | nil => rfl
  | cons t tokens ih =>
      cases t with
      | separator l => rw [separatorRun, List.length_cons, List.drop_succ_cons, ih]
      | placeholder k => rfl

/-- One more character stands behind the separators that follow the others. -/
theorem spread_append_singleton (c : Char) (hlen : w.length < (classes tokens).length) :
    spread tokens (w ++ [c]) = spread tokens w ++ runAfter tokens w ++ [c] := by
  induction tokens generalizing w with
  | nil => simp at hlen
  | cons t tokens ih =>
      cases t with
      | separator l =>
          have hnext := ih hlen
          cases w with
          | nil =>
              rw [List.nil_append, spread_nil, List.nil_append, runAfter_nil] at hnext
              rw [List.nil_append, spread_separator, hnext, spread_nil, runAfter_nil]
              rfl
          | cons a w =>
              rw [List.cons_append] at hnext ⊢
              rw [spread_separator, hnext, runAfter, runAfter, spread_separator]
              rfl
      | placeholder k =>
          cases w with
          | nil =>
              rw [List.nil_append, spread_placeholder, spread_nil, spread_nil, runAfter_nil]
              rfl
          | cons a w =>
              rw [List.cons_append, spread_placeholder, ih (Nat.lt_of_succ_lt_succ hlen), runAfter,
                runAfter, spread_placeholder]
              rfl

/-- A layout and the separators that still follow it are together as long as the layout with all of
the separators. -/
theorem length_display_add (tokens : List Token) (w : Text) (more : Bool) :
    (display tokens w more).length +
        (separatorRun (tokens.drop (display tokens w more).length)).length =
      (spread tokens w).length + (runAfter tokens w).length := by
  rw [display]
  split_ifs with hempty hmore
  · rw [hempty, spread_nil, runAfter_nil]
    rfl
  · rw [List.length_append, ← List.drop_drop, runAfter, separatorRun_drop]
    rfl
  · rw [List.append_nil, runAfter]

theorem length_display_le (tokens : List Token) (w : Text) (more : Bool) :
    (display tokens w more).length ≤ (spread tokens w).length + (runAfter tokens w).length := by
  rw [← length_display_add tokens w more]
  exact Nat.le_add_right _ _

end Formatted

namespace Caret

theorem skipSeparators_succ (tokens : List Token) (n : Nat) :
    skipSeparators tokens (n + 1) = n + 1 + (separatorRun (tokens.drop n)).length := by
  rw [skipSeparators, length_separatorRun]

theorem le_skipSeparators (tokens : List Token) (n : Nat) : n ≤ skipSeparators tokens n := by
  cases n with
  | zero => exact Nat.zero_le _
  | succ n => exact Nat.le_add_right _ _

/-- A value on the tokens ends before the offsets do, so its caret is repaired as if they had no
end. -/
theorem repaired_of_length_le {tokens : List Token} {value : Text}
    (htokens : tokens.length ≤ maxOffset) (hvalue : value.length ≤ tokens.length) (n : Nat) :
    repaired tokens (some n) value = min value.length (skipSeparators tokens (n + 1)) := by
  rw [repaired, Option.elim_some, Nat.min_comm]
  by_cases hn : n + 1 ≤ maxOffset
  · rw [show after n = n + 1 from Nat.min_eq_left hn]
  · rw [show after n = maxOffset from Nat.min_eq_right (by omega)]
    have hlast := le_skipSeparators tokens maxOffset
    have hnext := le_skipSeparators tokens (n + 1)
    omega

/-- Behind a value that is no longer than the text up to the character that was typed and the
separators after it, the caret is at the end. -/
theorem repaired_eq_length {tokens : List Token} {n : Nat} {value : Text}
    (htokens : tokens.length ≤ maxOffset) (hvalue : value.length ≤ tokens.length)
    (hlen : value.length ≤ n + 1 + (separatorRun (tokens.drop n)).length) :
    repaired tokens (some n) value = value.length := by
  rw [repaired_of_length_le htokens hvalue, skipSeparators_succ]
  exact Nat.min_eq_left hlen

end Caret

/-! ### What the placeholders took -/

namespace Pattern

variable {d t v : Text} {cs : Bool} {c : Char}

theorem length_tokens_le (hlen : d.length ≤ maxOffset) :
    (compile d).tokens.length ≤ maxOffset := by
  rw [tokens_compile, List.length_map]
  exact hlen

theorem strip_append (d t x : Text) :
    (compile d).strip (t ++ x) = (compile d).strip t ++ (compile d).strip x := by
  rw [strip_compile, strip_compile, strip_compile, List.filter_append]

theorem strip_singleton (hc : c ∉ (compile d).separators) : (compile d).strip [c] = [c] := by
  rw [strip_compile, List.filter_cons_of_pos (by simpa using hc)]
  rfl

theorem strip_singleton_of_mem (hc : c ∈ (compile d).separators) :
    (compile d).strip [c] = [] := by
  rw [strip_compile, List.filter_cons_of_neg (by simpa using hc)]
  rfl

theorem chosen_append (d t x : Text) (cs : Bool) :
    (compile d).chosen cs (t ++ x) = (compile d).chosen cs t ++
      taken cs ((classes (compile d).tokens).drop ((compile d).chosen cs t).length)
        ((compile d).strip x) := by
  rw [chosen, strip_append, taken_append]
  rfl

/-- A layout of some text, or that layout without the separators at its end. -/
def Typed (p : Pattern) (cs : Bool) (t v : Text) : Prop :=
  v = (p.format cs t).value ∨ v = spread p.tokens (p.chosen cs t)

namespace Typed

theorem exists_display (h : (compile d).Typed cs t v) :
    ∃ more, v = display (compile d).tokens ((compile d).chosen cs t) more := by
  rcases h with rfl | rfl
  · exact ⟨_, by rw [format_eq]⟩
  · exact ⟨false, (display_false _ _).symm⟩

theorem strip_eq (h : (compile d).Typed cs t v) :
    (compile d).strip v = (compile d).chosen cs t := by
  obtain ⟨more, rfl⟩ := h.exists_display
  exact (holds_chosen d cs t).strip_display more

/-- What was taken of a text stands for the whole text when more is added. -/
theorem chosen_append_eq (h : (compile d).Typed cs t v) (x : Text) :
    (compile d).chosen cs (v ++ x) = (compile d).chosen cs (t ++ x) := by
  rw [chosen_append d t, chosen, strip_append, h.strip_eq, taken_append,
    taken_of_fits (holds_chosen d cs t).accepted]

theorem format_append_eq (h : (compile d).Typed cs t v) (hc : c ∉ (compile d).separators) :
    (compile d).format cs (v ++ [c]) = (compile d).format cs (t ++ [c]) := by
  have hmore : (compile d).hasMore cs (v ++ [c]) = (compile d).hasMore cs (t ++ [c]) := by
    rw [hasMore, hasMore, strip_append, strip_append, h.strip_eq, strip_singleton hc, unread_append,
      unread_append, taken_of_fits (holds_chosen d cs t).accepted, chosen]
    split_ifs
    · rw [Bool.eq_iff_iff]
      simp
    · rfl
  rw [format_eq, format_eq, h.chosen_append_eq, hmore]

/-- A separator that is typed takes the separators at the end away. -/
theorem format_append_separator (h : (compile d).Typed cs t v) (hc : c ∈ (compile d).separators) :
    ((compile d).format cs (v ++ [c])).value =
      spread (compile d).tokens ((compile d).chosen cs t) := by
  have hstrip : (compile d).strip (v ++ [c]) = (compile d).chosen cs t := by
    rw [strip_append, strip_singleton_of_mem hc, List.append_nil, h.strip_eq]
  rw [format_of_holds_strip (hstrip ▸ holds_chosen d cs t), hstrip]

theorem append (h : (compile d).Typed cs t v) (c : Char) :
    (compile d).Typed cs (t ++ [c]) ((compile d).format cs (v ++ [c])).value := by
  by_cases hc : c ∈ (compile d).separators
  · right
    rw [h.format_append_separator hc, chosen_append, strip_singleton_of_mem hc, taken_nil,
      List.append_nil]
  · left
    rw [h.format_append_eq hc]

/-- A typed character makes the line longer by at most itself and the separators in front of it. -/
theorem length_format_append_le (h : (compile d).Typed cs t v) (c : Char) :
    ((compile d).format cs (v ++ [c])).value.length ≤
      v.length + 1 + (separatorRun ((compile d).tokens.drop v.length)).length := by
  obtain ⟨more, hv⟩ := h.exists_display
  have hfull := length_display_add (compile d).tokens ((compile d).chosen cs t) more
  rw [← hv] at hfull
  by_cases hc : c ∈ (compile d).separators
  · rw [h.format_append_separator hc]
    omega
  have hchosen := chosen_append d t [c] cs
  rw [strip_singleton hc] at hchosen
  rw [h.format_append_eq hc, format_eq]
  rcases @taken_singleton cs
    ((classes (compile d).tokens).drop ((compile d).chosen cs t).length) c with
    hnone | ⟨hone, hrest⟩
  · rw [hchosen, hnone, List.append_nil]
    have hle := length_display_le (compile d).tokens ((compile d).chosen cs t)
      ((compile d).hasMore cs (t ++ [c]))
    dsimp only
    omega
  · -- the character is taken as the last one, so no separators come after it
    rw [hone] at hchosen
    have hlen := Fits.length_le (holds_chosen d cs (t ++ [c]))
    rw [hchosen, List.length_append, List.length_singleton] at hlen
    have hmore : (compile d).hasMore cs (t ++ [c]) = false := by
      rw [hasMore, strip_append, strip_singleton hc, unread_append, ← chosen, hone,
        if_neg (by simp), hrest]
      rfl
    rw [hchosen, hmore, display_false, spread_append_singleton c hlen, List.length_append,
      List.length_append, List.length_singleton]
    omega

/-- The caret, repaired after a typed character, is behind the line. -/
theorem repaired_eq_length (hlen : d.length ≤ maxOffset) (h : (compile d).Typed cs t v) (c : Char) :
    Caret.repaired (compile d).tokens (some v.length) ((compile d).format cs (v ++ [c])).value =
      ((compile d).format cs (v ++ [c])).value.length :=
  Caret.repaired_eq_length (length_tokens_le hlen) (fits_format d cs (v ++ [c])).length_le
    (h.length_format_append_le c)

end Typed

end Pattern

/-! ### The prompt under the keys of a text -/

/-- The keys of the characters of a text. -/
def Key.ofText (t : Text) : List Key := t.map fun c => .plain (.char c)

theorem Key.ofText_append (t u : Text) : ofText (t ++ u) = ofText t ++ ofText u :=
  List.map_append

/-- A session and its line after the characters of a text: each is written at the caret and the
session is told. -/
def Session.type (s : Session) (b : LineBuffer) (t : Text) : Session × LineBuffer :=
  t.foldl (fun state c => (state.1.notify (state.2.insert c)).2) (s, b)

namespace LineBuffer

theorem text_insert_ofText (v : Text) (c : Char) : ((ofText v).insert c).text = v ++ [c] := by
  simp [text_insert, ofText]

theorem setCaret_length (b : LineBuffer) (v : Text) :
    (b.setText v).setCaret v.length = ofText v := by
  have hclamp : Text.clamp v.length v = v.length := Nat.min_self _
  simp only [setText, setCaret, ofText, hclamp]

end LineBuffer

namespace Prompt

variable {id label : String} {d t v : Text} {o : MaskOptions}

/-- A prompt that shows a text with the caret behind it. -/
def showing (id label : String) (d : Text) (o : MaskOptions) (v : Text) : Prompt :=
  ⟨id, label, .ofText v, ⟨.compile d, v, o.caseSensitive⟩, false⟩

theorem press_char (p : Prompt) (c : Char) :
    (p.press (.plain (.char c))).2 =
      notify { p with buffer := p.buffer.insert c, refused := false } :=
  congrArg Prod.snd (press_of_char rfl rfl)

theorem anchor_insert (b : LineBuffer) (c : Char) : Session.anchor (b.insert c) = some b.caret := by
  show (if b.caret + 1 = 0 then none else some (b.caret + 1 - 1)) = some b.caret
  rw [if_neg (Nat.succ_ne_zero _), Nat.add_sub_cancel]

/-- A typed character leaves the caret at the end. -/
theorem press_showing (hlen : d.length ≤ maxOffset)
    (h : (Pattern.compile d).Typed o.caseSensitive t v) (c : Char) :
    ((showing id label d o v).press (.plain (.char c))).2 =
      showing id label d o ((Pattern.compile d).format o.caseSensitive (v ++ [c])).value := by
  have htext := LineBuffer.text_insert_ofText v c
  have hne : ((LineBuffer.ofText v).insert c).text ≠ v := by
    rw [htext]
    simp
  have hlayout :
      Session.layout ⟨.compile d, v, o.caseSensitive⟩ ((LineBuffer.ofText v).insert c).text =
        ((Pattern.compile d).format o.caseSensitive (v ++ [c])).value := by
    rw [htext]
    rfl
  have hcaret : Caret.repaired (Pattern.compile d).tokens (some (LineBuffer.ofText v).caret)
      ((Pattern.compile d).format o.caseSensitive (v ++ [c])).value = _ :=
    h.repaired_eq_length hlen c
  rw [press_char, notify_of_ne hne]
  dsimp only [showing]
  rw [hlayout, anchor_insert, Mask.pattern_compile, hcaret, LineBuffer.setCaret_length]

/-- The characters of a text, typed one after the other, leave a layout of it. -/
theorem exists_typed (id label : String) (d : Text) (o : MaskOptions) (hlen : d.length ≤ maxOffset)
    (t : Text) :
    ∃ v, (Pattern.compile d).Typed o.caseSensitive t v ∧
      (new id label (.compile d) o).after (Key.ofText t) = showing id label d o v ∧
      ((∀ c ∈ t, c ∉ (Pattern.compile d).separators) →
        v = ((Pattern.compile d).format o.caseSensitive t).value) := by
  -- from the end of the text: a key meets the line that all keys before it have left
  induction t using List.reverseRecOn with
  | nil =>
      have hnil : [] = ((Pattern.compile d).format o.caseSensitive []).value := by
        rw [Pattern.format_eq, Pattern.chosen_nil]
        rfl
      exact ⟨[], .inl hnil, rfl, fun _ => hnil⟩
  | append_singleton t c ih =>
      obtain ⟨v, hv, hafter, -⟩ := ih
      refine ⟨((Pattern.compile d).format o.caseSensitive (v ++ [c])).value, hv.append c, ?_, ?_⟩
      · rw [Key.ofText_append, after_append, hafter]
        exact press_showing hlen hv c
      · intro hsep
        rw [hv.format_append_eq (hsep c (by simp))]

theorem type_eq_after (p : Prompt) (t : Text) :
    p.session.type p.buffer t =
      ((p.after (Key.ofText t)).session, (p.after (Key.ofText t)).buffer) := by
  induction t generalizing p with
  | nil => rfl
  | cons c t ih =>
      have hpress := press_char p c
      have hnotify : (p.session.notify (p.buffer.insert c)).2 =
          ((p.press (.plain (.char c))).2.session, (p.press (.plain (.char c))).2.buffer) := by
        rw [hpress]
        rfl
      rw [Session.type, List.foldl_cons, hnotify, ← Session.type]
      exact ih (p.press (.plain (.char c))).2

/-- **Typing a text is defaulting to it.** The caret stays at the end of the line, and without
separators among the characters nothing tells the prompt from a fresh one that starts with the text.
Otherwise the line may lack the separators after its last placeholder, and shows the same characters
on the placeholders. A definition has no more characters than an offset can count, as no text in
memory has. -/
theorem typing_agrees (d t : Text) (o : MaskOptions) (id label : String)
    (hlen : d.length ≤ maxOffset) :
    let tokens := (Pattern.compile d).tokens
    let fresh := new id label (.compile d) o
    let typed := fresh.after (Key.ofText t)
    let given := (Mask.compile d).format o t
    (Session.attach LineBuffer.empty (.compile d) o).type .empty t = (typed.session, typed.buffer) ∧
    typed.buffer.caret = typed.value.length ∧
    ((∀ c ∈ t, c ∉ (Pattern.compile d).separators) →
      typed = fresh.withDefault t ∧ typed.value = given ∧ typed.error? = none) ∧
    (typed.value = given ∨ typed.value = given.take (reach (tokens.take given.length))) ∧
    ∀ (i : Nat) k, tokens[i]? = some (.placeholder k) → typed.value[i]? = given[i]? := by
  intro tokens fresh typed given
  obtain ⟨v, hv, hafter, hsame⟩ := exists_typed id label d o hlen t
  have htyped : typed = showing id label d o v := hafter
  have hvalue : typed.value = v := congrArg value htyped
  have htail :
      typed.value = given ∨ typed.value = given.take (reach (tokens.take given.length)) := by
    rw [hvalue]
    exact hv.imp_right fun h => h.trans (Pattern.spread_chosen d o.caseSensitive t)
  refine ⟨type_eq_after fresh t, ?_, ?_, htail, ?_⟩
  · rw [htyped]
    rfl
  · intro hsep
    have hgiven : v = given := hsame hsep
    rw [htyped, hgiven]
    exact ⟨rfl, rfl, rfl⟩
  · intro i k hi
    rcases htail with hfull | hcut
    · rw [hfull]
    · rw [hcut]
      exact getElem?_take_reach hi

/-- A separator after a character that no placeholder takes is lost in typing. -/
theorem typed_after_rejected :
    "99-99".toList.length ≤ maxOffset ∧
    let tokens := (Pattern.compile "99-99".toList).tokens
    let typed := (new "" "" (.compile "99-99".toList) ⟨true⟩).after (Key.ofText "12x-".toList)
    let given := (Mask.compile "99-99".toList).format ⟨true⟩ "12x-".toList
    typed.value = "12".toList ∧ given = "12-".toList ∧ typed.buffer.caret = typed.value.length ∧
    typed.value = given.take (reach (tokens.take given.length)) := by
  have hlen : "99-99".toList.length ≤ maxOffset := by decide
  obtain ⟨-, hcaret, -, htail, -⟩ := typing_agrees "99-99".toList "12x-".toList ⟨true⟩ "" "" hlen
  refine ⟨hlen, by decide +kernel, by decide +kernel, hcaret, htail.resolve_left ?_⟩
  decide +kernel

end Prompt

end MaskedInput
