import MaskedInput.Proofs.Typing

/-! Where a typed character lands. A line up to its caret fits the mask, so the placeholders take
its characters again, and the next placeholder takes the typed one (`chosen_insert`); written out,
they are the same beginning of the line, the separators behind it, and the typed character
(`spread_filter_append`). The caret is repaired by a rule of its own, which ends up right behind. -/

namespace MaskedInput

open Formatted

/-- The first placeholder at an index or after it, and the class it asks for. -/
structure IsNextPlaceholder (tokens : List Token) (start index : Nat) (k : CharClass) : Prop where
  start_le : start ≤ index
  placeholder : tokens[index]? = some (.placeholder k)
  first : ∀ i, start ≤ i → i < index → ∀ j, tokens[i]? ≠ some (.placeholder j)

instance decidablePlaceholder (t? : Option Token) :
    Decidable (∃ k, t? = some (.placeholder k)) :=
  match t? with
  | some (.placeholder k) => isTrue ⟨k, rfl⟩
  | some (.separator _) => isFalse fun ⟨_, h⟩ => nomatch h
  | none => isFalse fun ⟨_, h⟩ => nomatch h

instance (tokens : List Token) (start index : Nat) (k : CharClass) :
    Decidable (IsNextPlaceholder tokens start index k) :=
  decidable_of_iff
    (start ≤ index ∧ tokens[index]? = some (.placeholder k) ∧
      ∀ i < index, start ≤ i → ¬∃ j, tokens[i]? = some (.placeholder j))
    ⟨fun ⟨hle, hk, hfirst⟩ => ⟨hle, hk, fun i hi hlt j hj => hfirst i hlt hi ⟨j, hj⟩⟩,
      fun h => ⟨h.start_le, h.placeholder, fun i hlt hi ⟨j, hj⟩ => h.first i hi hlt j hj⟩⟩

/-- The characters of a text that stand on placeholders. -/
def onPlaceholders (tokens : List Token) (v : Text) : Text :=
  (tokens.zip v).filterMap fun (t, c) => if t.isSeparator then none else some c

namespace IsNextPlaceholder

variable {tokens : List Token} {start index : Nat} {k : CharClass}

theorem drop_index (h : IsNextPlaceholder tokens start index k) :
    tokens.drop index = .placeholder k :: tokens.drop (index + 1) := by
  obtain ⟨hlt, hget⟩ := List.getElem?_eq_some_iff.1 h.placeholder
  rw [List.drop_eq_getElem_cons hlt, hget]

/-- From the start on there are separators up to the placeholder. -/
theorem drop_start (h : IsNextPlaceholder tokens start index k) :
    tokens.drop start =
      (tokens.drop start).take (index - start) ++ .placeholder k :: tokens.drop (index + 1) := by
  have hsum : start + (index - start) = index := Nat.add_sub_cancel' h.start_le
  rw [← h.drop_index, ← hsum, ← List.drop_drop, Nat.add_sub_cancel_left, List.take_append_drop]

theorem separators (h : IsNextPlaceholder tokens start index k) :
    ∀ t ∈ (tokens.drop start).take (index - start), t.isSeparator = true := by
  intro t ht
  obtain ⟨i, hi, hget⟩ := List.mem_take_iff_getElem.1 ht
  have hlt : i < index - start := by omega
  cases t with
  | separator l => rfl
  | placeholder j =>
      refine absurd ?_ (h.first (start + i) (Nat.le_add_right _ _) (by omega) j)
      rw [← List.getElem?_drop, ← hget, List.getElem?_eq_getElem]

end IsNextPlaceholder

namespace Formatted

variable {tokens : List Token}

/-- Separators in front of a placeholder are written out by their literals. -/
theorem separatorRun_append_placeholder {seps : List Token} (k : CharClass) (rest : List Token)
    (hseps : ∀ t ∈ seps, t.isSeparator = true) :
    separatorRun (seps ++ .placeholder k :: rest) = seps.filterMap Token.literal? ∧
      (seps.filterMap Token.literal?).length = seps.length := by
  induction seps with
  | nil => exact ⟨rfl, rfl⟩
  | cons t seps ih =>
      obtain ⟨hrun, hlen⟩ := ih fun t ht => hseps t (List.mem_cons_of_mem _ ht)
      cases t with
      | separator l => exact ⟨congrArg (l :: ·) hrun, congrArg (· + 1) hlen⟩
      | placeholder j => exact absurd (hseps _ List.mem_cons_self) Bool.false_ne_true

/-- The first character goes to the first placeholder. -/
theorem spread_cons {k : CharClass} {rest : List Token} (c : Char) (w : Text)
    (hrest : tokens.drop (separatorRun tokens).length = .placeholder k :: rest) :
    spread tokens (c :: w) = separatorRun tokens ++ c :: spread rest w := by
  induction tokens with
  | nil => simp at hrest
  | cons t tokens ih =>
      cases t with
      | separator l =>
          have htail := ih hrest
          rw [spread_separator, htail]
          rfl
      | placeholder j =>
          cases hrest
          exact spread_placeholder k c rest w

/-- What a fitting text shows on placeholders, with one more character for the next placeholder, is
written out as the text itself, the separators behind it and the character. -/
theorem spread_filter_append {p : Pattern} {cs : Bool} {u : Text}
    (hsep : EachSeparator (· ∈ p.separators) tokens) (hu : Fits (p.Admits cs) tokens u)
    {k : CharClass} {rest : List Token} (c : Char) (w : Text)
    (hrest : (tokens.drop u.length).drop (separatorRun (tokens.drop u.length)).length =
      .placeholder k :: rest) :
    spread tokens (u.filter (· ∉ p.separators) ++ c :: w) =
      u ++ separatorRun (tokens.drop u.length) ++ c :: spread rest w := by
  induction hu with
  | nil tokens => exact spread_cons c w hrest
  | @cons t e tokens u head tail ih =>
      have htail := ih hsep.tail hrest
      cases t with
      | separator l =>
          have he : e ∈ p.separators := head ▸ hsep.head
          obtain ⟨a, x, hax⟩ : ∃ a x, u.filter (· ∉ p.separators) ++ c :: w = a :: x :=
            List.exists_cons_of_ne_nil (by simp)
          rw [List.filter_cons_of_neg (by simpa using he)]
          rw [hax] at htail ⊢
          rw [spread_separator, htail, head]
          rfl
      | placeholder j =>
          rw [List.filter_cons_of_pos (by simpa using head.2), List.cons_append,
            spread_placeholder, htail]
          rfl

/-- The classes of the tokens from an index on are those behind the classes before it. -/
theorem classes_drop (tokens : List Token) (n : Nat) :
    (classes tokens).drop (classes (tokens.take n)).length = classes (tokens.drop n) := by
  have happend : classes tokens = classes (tokens.take n) ++ classes (tokens.drop n) := by
    rw [classes, classes, classes, ← List.filterMap_append, List.take_append_drop]
  rw [happend, List.drop_left]

theorem classes_append_placeholder {seps : List Token} (k : CharClass) (rest : List Token)
    (hseps : ∀ t ∈ seps, t.isSeparator = true) :
    classes (seps ++ .placeholder k :: rest) = k :: classes rest := by
  induction seps with
  | nil => rfl
  | cons t seps ih =>
      have htail := ih fun t ht => hseps t (List.mem_cons_of_mem _ ht)
      cases t with
      | separator l => exact htail
      | placeholder j => exact absurd (hseps _ List.mem_cons_self) Bool.false_ne_true

end Formatted

namespace IsNextPlaceholder

variable {tokens : List Token} {start index : Nat} {k : CharClass}

theorem separatorRun_eq (h : IsNextPlaceholder tokens start index k) :
    separatorRun (tokens.drop start) =
      ((tokens.drop start).take (index - start)).filterMap Token.literal? := by
  rw [h.drop_start]
  conv_rhs => rw [← h.drop_start]
  exact (separatorRun_append_placeholder k _ h.separators).1

theorem length_separatorRun_eq (h : IsNextPlaceholder tokens start index k) :
    (separatorRun (tokens.drop start)).length = index - start := by
  obtain ⟨hlt, -⟩ := List.getElem?_eq_some_iff.1 h.placeholder
  rw [h.separatorRun_eq, (separatorRun_append_placeholder k [] h.separators).2, List.length_take,
    List.length_drop]
  omega

end IsNextPlaceholder

/-! ### The layout around a typed character -/

namespace Pattern

variable {d u : Text} {cs : Bool} {k : CharClass} {index : Nat} {c : Char}

theorem onPlaceholders_eq_filter {p : Pattern} {tokens : List Token} {v : Text}
    (hsep : EachSeparator (· ∈ p.separators) tokens) (hv : Fits (p.Admits cs) tokens v) :
    onPlaceholders tokens v = v.filter (· ∉ p.separators) := by
  induction hv with
  | nil tokens =>
      rw [onPlaceholders, List.zip_nil_right]
      rfl
  | @cons t e tokens v head tail ih =>
      have htail : onPlaceholders tokens v = v.filter (· ∉ p.separators) := ih hsep.tail
      cases t with
      | separator l =>
          have he : e ∈ p.separators := head ▸ hsep.head
          rw [List.filter_cons_of_neg (by simpa using he), ← htail]
          rfl
      | placeholder j =>
          rw [List.filter_cons_of_pos (by simpa using head.2), ← htail]
          rfl

/-- The placeholders take what stands left of a typed character again, then the character, and what
they find behind it. -/
theorem chosen_insert (hu : Fits ((compile d).Admits cs) (compile d).tokens u)
    (hnext : IsNextPlaceholder (compile d).tokens u.length index k)
    (hc : c ∉ (compile d).separators) (hk : k.accepts cs c = true) (x : Text) :
    (compile d).chosen cs (u ++ c :: x) = (compile d).strip u ++
      c :: taken cs (classes ((compile d).tokens.drop (index + 1))) ((compile d).strip x) := by
  have hstrip : (compile d).strip (u ++ c :: x) =
      (compile d).strip u ++ c :: (compile d).strip x := by
    rw [strip_append, ← List.singleton_append, strip_append, strip_singleton hc]
    rfl
  have hleft : taken cs (classes (compile d).tokens) ((compile d).strip u) = (compile d).strip u :=
    taken_of_fits (holds_strip hu).accepted
  have hlen : ((compile d).strip u).length =
      (classes ((compile d).tokens.take u.length)).length := by
    rw [strip_compile]
    exact length_filter (eachSeparator_compile d) hu
  have hclasses : (classes (compile d).tokens).drop ((compile d).strip u).length =
      k :: classes ((compile d).tokens.drop (index + 1)) := by
    rw [hlen, classes_drop, hnext.drop_start, classes_append_placeholder k _ hnext.separators]
  rw [chosen, hstrip, taken_append, hleft, hclasses, taken,
    List.dropWhile_cons_of_neg (by simpa using hk)]

theorem strip_separatorRun (d : Text) (n : Nat) :
    (compile d).strip (separatorRun ((compile d).tokens.drop n)) = [] := by
  rw [strip_compile]
  exact filter_separatorRun ((eachSeparator_compile d).drop n)

/-- The characters left of a typed one are written out as they were, the separators that follow them
and the typed one behind. -/
theorem spread_insert (hu : Fits ((compile d).Admits cs) (compile d).tokens u)
    (hnext : IsNextPlaceholder (compile d).tokens u.length index k) (c : Char) (w : Text) :
    spread (compile d).tokens ((compile d).strip u ++ c :: w) =
      u ++ separatorRun ((compile d).tokens.drop u.length) ++
        c :: spread ((compile d).tokens.drop (index + 1)) w := by
  rw [strip_compile]
  apply spread_filter_append (eachSeparator_compile d) hu
  rw [hnext.length_separatorRun_eq, List.drop_drop, Nat.add_sub_cancel' hnext.start_le]
  exact hnext.drop_index

/-- A typed character stands right behind the separators that follow what is left of it, and what
stands behind the character are characters that stood there before. -/
theorem format_insert (hu : Fits ((compile d).Admits cs) (compile d).tokens u)
    (hnext : IsNextPlaceholder (compile d).tokens u.length index k)
    (hc : c ∉ (compile d).separators) (hk : k.accepts cs c = true) (x : Text) :
    ∃ behind, ((compile d).format cs (u ++ c :: x)).value =
        u ++ separatorRun ((compile d).tokens.drop u.length) ++ c :: behind ∧
      ((compile d).strip behind).Sublist ((compile d).strip x) := by
  have hchosen := chosen_insert hu hnext hc hk x
  have hspread := spread_insert hu hnext c
    (taken cs (classes ((compile d).tokens.drop (index + 1))) ((compile d).strip x))
  rw [← hchosen] at hspread
  have hne : (compile d).chosen cs (u ++ c :: x) ≠ [] := by
    rw [hchosen]
    simp
  have hvalue : ∃ behind, ((compile d).format cs (u ++ c :: x)).value =
      u ++ separatorRun ((compile d).tokens.drop u.length) ++ c :: behind := by
    rw [format_eq]
    dsimp only
    rw [display, if_neg hne, hspread, List.append_assoc, List.cons_append]
    exact ⟨_, rfl⟩
  obtain ⟨behind, hbehind⟩ := hvalue
  refine ⟨behind, hbehind, ?_⟩
  -- what is behind the character is read back from the value, which holds what was taken
  have hread := strip_format d cs (u ++ c :: x)
  rw [hbehind, hchosen, strip_append, strip_append, strip_separatorRun, List.append_nil,
    ← List.singleton_append, strip_append, strip_singleton hc, List.append_cancel_left_eq,
    List.singleton_append, List.cons.injEq] at hread
  rw [hread.2]
  exact taken_sublist _ _

end Pattern

namespace Caret

variable {tokens : List Token} {start index : Nat} {k : CharClass}

theorem skipSeparators_of_next (hnext : IsNextPlaceholder tokens start index k) :
    skipSeparators tokens (start + 1) = index + 1 := by
  have hle : start ≤ index := hnext.start_le
  rw [skipSeparators_succ, hnext.length_separatorRun_eq]
  omega

/-- Behind a typed character the repaired caret goes over the separators in front of the placeholder
that has taken it, and stops behind that placeholder. -/
theorem repaired_of_next {value : Text} (htokens : tokens.length ≤ maxOffset)
    (hnext : IsNextPlaceholder tokens start index k) (hvalue : index < value.length) :
    repaired tokens (some start) value = index + 1 := by
  have hle : start ≤ index := hnext.start_le
  have hlt : index < tokens.length := (List.getElem?_eq_some_iff.1 hnext.placeholder).1
  have hafter : after start = start + 1 := Nat.min_eq_left (by omega)
  show min (skipSeparators tokens (after start)) value.length = index + 1
  rw [hafter, skipSeparators_of_next hnext]
  omega

end Caret

namespace Prompt

variable {d : Text} {o : MaskOptions} {p : Prompt} {k : Key} {c : Char}

/-- A key that writes a character leaves the layout of the line with the character, and the caret
repaired from where it was. -/
theorem Settled.press_writes (h : p.Settled d o) (hcode : k.code = .char c)
    (hplain : k.isControl = false) :
    let value := ((Pattern.compile d).format o.caseSensitive
      (p.value.take p.buffer.caret ++ c :: p.value.drop p.buffer.caret)).value
    (p.press k).1 = .editing ∧ (p.press k).2.value = value ∧
      (p.press k).2.buffer.caret =
        Caret.repaired (Pattern.compile d).tokens (some p.buffer.caret) value := by
  intro value
  have htext : (p.buffer.insert c).text =
      p.value.take p.buffer.caret ++ c :: p.value.drop p.buffer.caret := p.buffer.text_insert c
  have hne : (p.buffer.insert c).text ≠ p.value := by
    intro heq
    have hlen := congrArg List.length heq
    have hcaret : p.buffer.caret ≤ p.value.length := p.buffer.caret_le
    rw [htext, List.length_append, List.length_cons, List.length_take, List.length_drop] at hlen
    omega
  obtain ⟨hvalue, hcaret⟩ := h.notify_lays_out hne false
  rw [htext] at hvalue hcaret
  rw [anchor_insert] at hcaret
  rw [press_of_char hcode hplain]
  exact ⟨rfl, hvalue, hcaret⟩

/-- **A typed character lands right before the caret.** When the next placeholder takes it, the line
keeps what was left of the caret, goes on with the separators up to that placeholder and with the
character on it, and the caret is behind the character. On the placeholders that follow there are
only characters that were right of the caret, in their order. A definition has no more characters
than an offset can count, as no text in memory has. -/
theorem typed_lands (d : Text) (o : MaskOptions) (id label : String) (default : Option Text)
    (keys : List Key) (hlen : d.length ≤ maxOffset) (k : Key) (c : Char) (index : Nat)
    (charClass : CharClass) :
    let tokens := (Pattern.compile d).tokens
    let p := (opened id label d o default).after keys
    let q := (p.press k).2
    k.code = .char c → k.isControl = false →
    IsNextPlaceholder tokens p.buffer.caret index charClass →
    c ∉ (Pattern.compile d).separators → charClass.accepts o.caseSensitive c = true →
    (p.press k).1 = .editing ∧
    p.value.take p.buffer.caret ++ ((tokens.take index).drop p.buffer.caret).filterMap Token.literal?
      ++ [c] <+: q.value ∧
    q.value[index]? = some c ∧ q.buffer.caret = index + 1 ∧
    (onPlaceholders (tokens.drop (index + 1)) (q.value.drop (index + 1))).Sublist
      (onPlaceholders (tokens.drop p.buffer.caret) (p.value.drop p.buffer.caret)) := by
  intro tokens p q hcode hplain hnext hc hk
  have h : p.Settled d o := (settled_opened id label d o default).after keys
  have hq : q.Settled d o := h.act (.ofKey k)
  have hsep : EachSeparator (· ∈ (Pattern.compile d).separators) tokens :=
    Pattern.eachSeparator_compile d
  obtain ⟨hediting, hvalue, hcaret⟩ := h.press_writes hcode hplain
  have hleft : (p.value.take p.buffer.caret).length = p.buffer.caret :=
    List.length_take_of_le p.buffer.caret_le
  obtain ⟨behind, hformat, hsub⟩ := Pattern.format_insert (h.fits.take p.buffer.caret)
    (hleft.symm ▸ hnext) hc hk (p.value.drop p.buffer.caret)
  rw [hleft] at hformat
  have hfront : (p.value.take p.buffer.caret ++
      separatorRun (tokens.drop p.buffer.caret)).length = index := by
    rw [List.length_append, hleft, hnext.length_separatorRun_eq]
    exact Nat.add_sub_cancel' hnext.start_le
  have hshown : q.value = p.value.take p.buffer.caret ++
      separatorRun (tokens.drop p.buffer.caret) ++ c :: behind := hvalue.trans hformat
  have hrest : q.value.drop (index + 1) = behind := by
    rw [hshown, ← hfront, ← List.drop_drop, List.drop_left]
    rfl
  have hindex : index < q.value.length := by
    rw [hshown, List.length_append, hfront, List.length_cons]
    omega
  refine ⟨hediting, ?_, ?_, ?_, ?_⟩
  · rw [hshown, hnext.separatorRun_eq, List.drop_take, List.append_cons _ c behind]
    exact List.prefix_append _ _
  · rw [hshown, List.getElem?_append_right (Nat.le_of_eq hfront), hfront, Nat.sub_self]
    rfl
  · rw [hcaret, ← hvalue]
    exact Caret.repaired_of_next (Pattern.length_tokens_le hlen) hnext hindex
  · have hnew := Pattern.onPlaceholders_eq_filter (hsep.drop (index + 1)) (hq.fits.drop (index + 1))
    have hold :=
      Pattern.onPlaceholders_eq_filter (hsep.drop p.buffer.caret) (h.fits.drop p.buffer.caret)
    rw [hnew, hold, hrest, ← Pattern.strip_compile, ← Pattern.strip_compile]
    exact hsub

/-- A digit typed in front of separators goes over them, and the last digit behind it is lost. -/
theorem typed_over_separators :
    let d := "99-(99)a".toList
    let tokens := (Pattern.compile d).tokens
    let p := (opened "" "" d ⟨true⟩ (some "1234x".toList)).after
      [.plain .home, .plain .right, .plain .right]
    let k : Key := ⟨.char '7', { shift := true }⟩
    let q := (p.press k).2
    d.length ≤ maxOffset ∧ p.value = "12-(34)x".toList ∧ p.buffer.caret = 2 ∧
    k.code = .char '7' ∧ k.isControl = false ∧ IsNextPlaceholder tokens p.buffer.caret 4 .digit ∧
    '7' ∉ (Pattern.compile d).separators ∧ CharClass.digit.accepts true '7' = true ∧
    p.value.take p.buffer.caret ++ ((tokens.take 4).drop p.buffer.caret).filterMap Token.literal?
      ++ ['7'] <+: q.value ∧
    q.value = "12-(73)x".toList ∧ q.buffer.caret = 5 ∧
    (onPlaceholders (tokens.drop 5) (q.value.drop 5)).Sublist
      (onPlaceholders (tokens.drop p.buffer.caret) (p.value.drop p.buffer.caret)) := by
  intro d tokens p k q
  have hlen : d.length ≤ maxOffset := by decide +kernel
  have hcaret : p.buffer.caret = 2 := by decide +kernel
  have hdash : tokens[2]? = some (.separator '-') := by decide +kernel
  have hopen : tokens[3]? = some (.separator '(') := by decide +kernel
  have hnext : IsNextPlaceholder tokens p.buffer.caret 4 .digit := by
    rw [hcaret]
    refine ⟨by decide, by decide +kernel, fun i hi hlt j => ?_⟩
    obtain rfl | rfl : i = 2 ∨ i = 3 := by omega
    · rw [hdash]
      simp
    · rw [hopen]
      simp
  have hc : '7' ∉ (Pattern.compile d).separators := by decide +kernel
  have hk : CharClass.digit.accepts true '7' = true := by decide +kernel
  have hlands := typed_lands d ⟨true⟩ "" "" (some "1234x".toList)
    [.plain .home, .plain .right, .plain .right] hlen k '7' 4 .digit
  have hp : p = (opened "" "" d ⟨true⟩ (some "1234x".toList)).after
    [.plain .home, .plain .right, .plain .right] := rfl
  have hq : q = (p.press k).2 := rfl
  rw [← hp] at hlands
  dsimp only at hlands
  rw [← hq] at hlands
  obtain ⟨-, hprefix, -, hnew, hsub⟩ := hlands rfl rfl hnext hc hk
  exact ⟨hlen, by decide +kernel, hcaret, rfl, rfl, hnext, hc, hk, hprefix, by decide +kernel, hnew,
    hsub⟩

end Prompt

end MaskedInput
