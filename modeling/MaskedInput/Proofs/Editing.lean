import MaskedInput.Proofs.Notification

/-! The invariant of a prompt. Whatever a key does to the raw line, the notification after it leaves
a line that shows the mask from its first token on and that the session has seen (`Settled`); so
every state that any keys lead to is of this kind, and the hint completes its line to one character
for each token. -/

namespace MaskedInput

open Formatted

namespace Pattern

/-- A value that fits and has a character of the input reaches a placeholder. -/
theorem exists_placeholder {d v : Text} {cs : Bool} {c : Char}
    (hv : Fits ((compile d).Admits cs) (compile d).tokens v) (hc : c ∈ v)
    (hsep : c ∉ (compile d).separators) :
    ∃ (i : Nat) (k : CharClass), i < v.length ∧ (compile d).tokens[i]? = some (.placeholder k) := by
  obtain ⟨i, hi⟩ := List.mem_iff_getElem?.1 hc
  obtain ⟨t, ht, hadmits⟩ := hv.exists_admits hi
  cases t with
  | separator l =>
      have hl := eachSeparator_compile d l (List.mem_of_getElem? ht)
      exact absurd (hadmits ▸ hl) hsep
  | placeholder k => exact ⟨i, k, (List.getElem?_eq_some_iff.1 hi).1, ht⟩

theorem format_value_covers (d : Text) (cs : Bool) (raw : Text) :
    ((compile d).format cs raw).value = [] ∨ ∃ (i : Nat) (k : CharClass),
      i < ((compile d).format cs raw).value.length ∧
        (compile d).tokens[i]? = some (.placeholder k) := by
  have hstrip := strip_format d cs raw
  cases hw : (compile d).chosen cs raw with
  | nil =>
      left
      rw [format_eq, hw]
      rfl
  | cons c w =>
      right
      have hmem : c ∈ (compile d).strip ((compile d).format cs raw).value := by
        rw [hstrip, hw]
        exact List.mem_cons_self
      have hc := not_mem_separators_of_mem_strip hmem
      rw [strip_compile] at hmem
      exact exists_placeholder (fits_format d cs raw) (List.mem_filter.1 hmem).1 hc

end Pattern

namespace Prompt

/-- A prompt whose line shows its mask and is what its session saw last. -/
structure Settled (d : Text) (o : MaskOptions) (p : Prompt) : Prop where
  mask_eq : p.session.mask = .compile d
  options_eq : p.session.options = o
  lastValue_eq : p.session.lastValue = p.value
  fits : Fits ((Pattern.compile d).Admits o.caseSensitive) (Pattern.compile d).tokens p.value
  covers : p.value = [] ∨ ∃ (i : Nat) (k : CharClass), i < p.value.length ∧
    (Pattern.compile d).tokens[i]? = some (.placeholder k)

/-- The prompt that some keys lead to, whatever it answers to each of them. -/
def after (p : Prompt) (keys : List Key) : Prompt := keys.foldl (fun p k => (p.press k).2) p

theorem after_append (p : Prompt) (keys more : List Key) :
    p.after (keys ++ more) = (p.after keys).after more :=
  List.foldl_append

/-- A prompt before its first key. -/
def opened (id label : String) (d : Text) (o : MaskOptions) (default : Option Text) : Prompt :=
  let fresh := new id label (.compile d) o
  default.elim fresh fresh.withDefault

variable {d : Text} {o : MaskOptions} {p : Prompt}

theorem settled_opened (id label : String) (d : Text) (o : MaskOptions) (default : Option Text) :
    Settled d o (opened id label d o default) := by
  cases default with
  | none => exact ⟨rfl, rfl, rfl, .nil _, .inl rfl⟩
  | some value =>
      exact ⟨rfl, rfl, rfl, Pattern.fits_format d o.caseSensitive value,
        Pattern.format_value_covers d o.caseSensitive value⟩

theorem Settled.layout_eq (h : p.Settled d o) (text : Text) :
    p.session.layout text = ((Pattern.compile d).format o.caseSensitive text).value := by
  have hflag : p.session.caseSensitive = o.caseSensitive :=
    congrArg MaskOptions.caseSensitive h.options_eq
  rw [Session.layout, h.mask_eq, hflag, Mask.pattern_compile]

/-- A notification settles any line, whatever a key has made of it. -/
theorem Settled.notify (h : p.Settled d o) (b : LineBuffer) (refused : Bool) :
    (Prompt.notify { p with buffer := b, refused }).Settled d o := by
  by_cases hb : b.text = p.session.lastValue
  · rw [notify_of_eq hb]
    have hvalue : b.text = p.value := hb.trans h.lastValue_eq
    exact ⟨h.mask_eq, h.options_eq, hb.symm, by rw [value, hvalue]; exact h.fits,
      by rw [value, hvalue]; exact h.covers⟩
  · rw [notify_of_ne hb]
    have hvalue := h.layout_eq b.text
    refine ⟨h.mask_eq, h.options_eq, rfl, ?_, ?_⟩
    · change Fits _ _ (p.session.layout b.text)
      rw [hvalue]
      exact Pattern.fits_format d o.caseSensitive b.text
    · change p.session.layout b.text = [] ∨
        ∃ (i : Nat) (k : CharClass), i < (p.session.layout b.text).length ∧ _
      rw [hvalue]
      exact Pattern.format_value_covers d o.caseSensitive b.text

/-- A line that the session has not seen is laid out, and its caret repaired. -/
theorem Settled.notify_lays_out (h : p.Settled d o) {b : LineBuffer} (hb : b.text ≠ p.value)
    (refused : Bool) :
    let value := ((Pattern.compile d).format o.caseSensitive b.text).value
    let q := Prompt.notify { p with buffer := b, refused }
    q.value = value ∧
      q.buffer.caret =
        Caret.repaired (Pattern.compile d).tokens (Session.anchor b) value := by
  intro value q
  have hne : b.text ≠ p.session.lastValue := by
    rw [h.lastValue_eq]
    exact hb
  have hlayout : p.session.layout b.text = value := h.layout_eq b.text
  have hq : q = Prompt.notify { p with buffer := b, refused } := rfl
  rw [hq, notify_of_ne hne]
  dsimp only
  rw [hlayout, h.mask_eq]
  exact ⟨rfl, Nat.min_eq_left (Nat.min_le_right _ _)⟩

theorem Settled.act (h : p.Settled d o) (a : Action) : (p.act a).2.Settled d o := by
  rcases p.act_cases a with ⟨-, hact⟩ | ⟨-, -, hact⟩ | ⟨-, -, hact⟩ | ⟨b, -, hact⟩ | ⟨-, -, -, hact⟩
  · rw [hact]
    exact h
  · rw [hact]
    exact h
  · rw [hact]
    exact ⟨h.mask_eq, h.options_eq, h.lastValue_eq, h.fits, h.covers⟩
  · rw [hact]
    exact h.notify b false
  · rw [hact]
    exact h.notify (a.move p.buffer) p.refused

theorem Settled.press (h : p.Settled d o) (k : Key) : (p.press k).2.Settled d o :=
  h.act (.ofKey k)

theorem Settled.after (h : p.Settled d o) (keys : List Key) : (p.after keys).Settled d o := by
  induction keys generalizing p with
  | nil => exact h
  | cons k keys ih => exact ih (h.press k)

/-! ### The line with its hint -/

theorem Settled.length_hint (h : p.Settled d o) :
    p.hint.length = (Pattern.compile d).tokens.length - p.value.length := by
  rw [hint, List.length_map, List.length_drop, h.mask_eq, Mask.pattern_compile]

/-- With its hint, a line has the literal of every separator in its place. -/
theorem Settled.separator_shown (h : p.Settled d o) {i : Nat} {l : Char}
    (hl : (Pattern.compile d).tokens[i]? = some (.separator l)) :
    (p.value ++ p.hint)[i]? = some l := by
  by_cases hi : i < p.value.length
  · rw [List.getElem?_append_left hi, List.getElem?_eq_getElem hi]
    exact congrArg some (h.fits.admits hl (List.getElem?_eq_getElem hi))
  · have hle : p.value.length ≤ i := Nat.le_of_not_lt hi
    rw [List.getElem?_append_right hle, hint, List.getElem?_map, List.getElem?_drop, h.mask_eq,
      Mask.pattern_compile, Nat.add_sub_cancel' hle, hl]
    rfl

/-- What is drawn of a prompt: its lead, its line, the hint and, after a refusal, the error. -/
theorem text_spans (p : Prompt) :
    p.spans.flatMap Span.text =
      p.lead ++ (p.value ++ p.hint) ++ (p.error?.map fun e => ("  " ++ e).toList).getD [] := by
  have hhint :
      (if p.hint.isEmpty then [] else [Span.mk p.hint (some .darkGrey)]).flatMap Span.text =
        p.hint := by
    by_cases hempty : p.hint = []
    · simp [hempty]
    · simp [hempty]
  rw [spans, List.flatMap_append, List.flatMap_append, hhint]
  cases p.error? with
  | none => simp
  | some e => simp

/-- **Every state of a prompt shows its mask.** Whatever keys came, the session has seen the line,
the caret is inside it, every character of it may stand where it stands, it is empty or reaches a
placeholder, and with its hint it has one character for each token and all separators in place. -/
theorem after_shows_mask (d : Text) (o : MaskOptions) (id label : String) (default : Option Text)
    (keys : List Key) :
    let p := (opened id label d o default).after keys
    let tokens := (Pattern.compile d).tokens
    p.session.lastValue = p.value ∧ p.buffer.caret ≤ p.value.length ∧
    p.value.length ≤ tokens.length ∧
    (∀ (i : Nat) t c, tokens[i]? = some t → p.value[i]? = some c →
      (Pattern.compile d).Admits o.caseSensitive t c) ∧
    (p.value = [] ∨ ∃ (i : Nat) (k : CharClass), i < p.value.length ∧
      tokens[i]? = some (.placeholder k)) ∧
    (p.value ++ p.hint).length = tokens.length ∧
    (∀ (i : Nat) l, tokens[i]? = some (.separator l) → (p.value ++ p.hint)[i]? = some l) ∧
    p.spans.flatMap Span.text =
      p.lead ++ (p.value ++ p.hint) ++ (p.error?.map fun e => ("  " ++ e).toList).getD [] := by
  intro p tokens
  have h : p.Settled d o := (settled_opened id label d o default).after keys
  refine ⟨h.lastValue_eq, p.buffer.caret_le, h.fits.length_le, ?_, h.covers, ?_, ?_, p.text_spans⟩
  · intro i t c ht hc
    exact h.fits.admits ht hc
  · rw [List.length_append, h.length_hint]
    exact Nat.add_sub_cancel' h.fits.length_le
  · intro i l hl
    exact h.separator_shown hl

end Prompt

end MaskedInput
