import MaskedInput.Proofs.Filling
import MaskedInput.Proofs.Since

/-! The life of a refusal. A submission that is refused shows an error, and only an edit of the line
takes it away again (`refused_press`). No other key changes the line or what its session has seen,
so the line under an error is still the one that was refused. -/

namespace MaskedInput

/-- A key that edits a line: it writes a character, clears the line, or removes a character that it
finds. -/
inductive Key.Edits (b : LineBuffer) (k : Key) : Prop
  | writes (c : Char) (code : k.code = .char c) (plain : k.isControl = false)
  | clears (code : k.code = .char 'u') (held : k.isControl = true)
  | backspaces (code : k.code = .backspace) (found : 0 < b.caret)
  | deletes (code : k.code = .delete) (found : b.caret < b.text.length)

/-- Escape, or `c` with the control key. -/
def Key.Cancels (k : Key) : Prop :=
  k.code = .escape ∨ k.code = .char 'c' ∧ k.isControl = true

namespace Prompt

variable {d : Text} {o : MaskOptions} {p : Prompt} {k : Key}

/-! ### Which key does what -/

theorem ofKey_eq_submit_iff : Action.ofKey k = .submit ↔ k.code = .enter := by
  rw [Action.ofKey]
  cases k.code with
  | char c =>
      dsimp only
      split_ifs
      · split <;> simp
      · simp
  | _ => simp

theorem ofKey_eq_cancel_iff : Action.ofKey k = .cancel ↔ k.Cancels := by
  rw [Action.ofKey, Key.Cancels]
  cases k.code with
  | char c =>
      dsimp only
      split_ifs with hcontrol
      · split <;> simp_all
      · simp [hcontrol]
  | _ => simp

@[simp] theorem edit?_cancel (b : LineBuffer) : Action.cancel.edit? b = none := rfl

@[simp] theorem edit?_submit (b : LineBuffer) : Action.submit.edit? b = none := rfl

theorem edit?_backspace_isSome_iff {b : LineBuffer} :
    (Action.backspace.edit? b).isSome = true ↔ 0 < b.caret := by
  change b.backspace?.isSome = true ↔ _
  rw [LineBuffer.backspace?, Nat.pos_iff_ne_zero]
  split_ifs with hzero <;> simp [hzero]

theorem edit?_delete_isSome_iff {b : LineBuffer} :
    (Action.delete.edit? b).isSome = true ↔ b.caret < b.text.length := by
  change b.delete?.isSome = true ↔ _
  rw [LineBuffer.delete?, ← Nat.not_le]
  split_ifs with hle <;> simp [hle]

theorem edit?_isSome_iff {b : LineBuffer} :
    ((Action.ofKey k).edit? b).isSome = true ↔ k.Edits b := by
  constructor
  · intro h
    rw [Action.ofKey] at h
    cases hcode : k.code with
    | char c =>
        rw [hcode] at h
        dsimp only at h
        split_ifs at h with hcontrol
        · split at h
          · cases h
          · exact .clears hcode hcontrol
          · cases h
        · exact .writes c hcode (by simpa using hcontrol)
    | backspace =>
        rw [hcode] at h
        exact .backspaces hcode (edit?_backspace_isSome_iff.1 h)
    | delete =>
        rw [hcode] at h
        exact .deletes hcode (edit?_delete_isSome_iff.1 h)
    | _ =>
        rw [hcode] at h
        cases h
  · rw [Action.ofKey]
    rintro (⟨c, code, plain⟩ | ⟨code, held⟩ | ⟨code, found⟩ | ⟨code, found⟩)
    · rw [code, plain]
      rfl
    · rw [code, held]
      rfl
    · rw [code]
      exact edit?_backspace_isSome_iff.2 found
    · rw [code]
      exact edit?_delete_isSome_iff.2 found

theorem text_move (b : LineBuffer) (a : Action) : (a.move b).text = b.text := by
  cases a with
  | left =>
      rw [Action.move, LineBuffer.left?]
      split_ifs <;> rfl
  | right =>
      rw [Action.move, LineBuffer.right?]
      split_ifs <;> rfl
  | _ => rfl

theorem press_cancels (hk : k.Cancels) : p.press k = (.cancelled, p) := by
  rw [press, ofKey_eq_cancel_iff.2 hk]
  rfl

/-! ### One key -/

/-- An Enter that does not submit. -/
def IsRefusal (p : Prompt) (k : Key) : Prop :=
  k.code = .enter ∧ (p.press k).1 = .editing

theorem isRefusal_iff : p.IsRefusal k ↔ k.code = .enter ∧ p.acceptable = false := by
  refine and_congr_right fun hk => ?_
  rw [press_enter hk]
  cases p.acceptable <;> simp

/-- An error is up after a key when the key was a refused Enter, or when the error was up before it
and the key was no edit. -/
theorem refused_press :
    (p.press k).2.refused = true ↔ p.IsRefusal k ∨ p.refused = true ∧ ¬k.Edits p.buffer := by
  rw [isRefusal_iff, ← edit?_isSome_iff, ← ofKey_eq_submit_iff, press]
  rcases p.act_cases (Action.ofKey k) with
    ⟨ha, hact⟩ | ⟨ha, haccept, hact⟩ | ⟨ha, haccept, hact⟩ | ⟨b, hedit, hact⟩ |
    ⟨-, hsubmit, hedit, hact⟩
  · rw [hact, ha]
    simp
  · rw [hact, ha, haccept]
    simp
  · rw [hact, ha, haccept]
    simp
  · have hsubmit : Action.ofKey k ≠ .submit := by
      intro h
      rw [h] at hedit
      cases hedit
    rw [hact, hedit]
    simp [hsubmit, Prompt.notify]
  · rw [hact, hedit]
    simp [hsubmit, Prompt.notify]

/-- A key that is no edit leaves the line and its session as they are. -/
theorem Settled.press_of_not_edits (h : p.Settled d o) (hk : ¬k.Edits p.buffer) :
    (p.press k).2.value = p.value ∧ (p.press k).2.session = p.session := by
  rw [← edit?_isSome_iff, Option.not_isSome_iff_eq_none] at hk
  rw [Prompt.press]
  rcases p.act_cases (Action.ofKey k) with
    ⟨-, hact⟩ | ⟨-, -, hact⟩ | ⟨-, -, hact⟩ | ⟨b, hedit, -⟩ | ⟨-, -, -, hact⟩
  · rw [hact]
    exact ⟨rfl, rfl⟩
  · rw [hact]
    exact ⟨rfl, rfl⟩
  · rw [hact]
    exact ⟨rfl, rfl⟩
  · rw [hk] at hedit
    cases hedit
  · have htext := text_move p.buffer (Action.ofKey k)
    rw [hact, notify_of_eq (htext.trans h.lastValue_eq.symm)]
    exact ⟨htext, rfl⟩

theorem Settled.acceptable_press (h : p.Settled d o) (hk : ¬k.Edits p.buffer) :
    (p.press k).2.acceptable = p.acceptable := by
  obtain ⟨hvalue, hsession⟩ := h.press_of_not_edits hk
  rw [acceptable, acceptable, hvalue, hsession]

theorem Settled.unacceptable_press (h : p.Settled d o)
    (hp : p.refused = true → p.acceptable = false) (hrefused : (p.press k).2.refused = true) :
    (p.press k).2.acceptable = false := by
  rcases refused_press.1 hrefused with hrefusal | ⟨hup, hk⟩
  · obtain ⟨henter, haccept⟩ := isRefusal_iff.1 hrefusal
    have hk : ¬k.Edits p.buffer := by
      rw [← edit?_isSome_iff, ofKey_eq_submit_iff.2 henter]
      simp
    rw [h.acceptable_press hk]
    exact haccept
  · rw [h.acceptable_press hk]
    exact hp hup

/-! ### A run of keys -/

/-- The line under an error is one that may not be submitted. -/
theorem Settled.unacceptable_after (h : p.Settled d o)
    (hp : p.refused = true → p.acceptable = false) (keys : List Key)
    (hrefused : (p.after keys).refused = true) : (p.after keys).acceptable = false := by
  induction keys generalizing p with
  | nil => exact hp hrefused
  | cons k keys ih => exact ih (h.press k) (h.unacceptable_press hp) hrefused

/-- An error is up when an Enter was refused and no key has edited the line since. -/
theorem refused_after_iff (hp : p.refused = false) (keys : List Key) :
    (p.after keys).refused = true ↔
      Since (fun past k => (p.after past).IsRefusal k)
        (fun past k => k.Edits (p.after past).buffer) keys := by
  refine iff_since (P := fun past => (p.after past).refused = true) ?_ (fun past k => ?_) keys
  · rw [after, List.foldl_nil, hp]
    exact Bool.false_ne_true
  · rw [after_append]
    exact refused_press

theorem error?_isSome : p.error?.isSome = p.refused := by
  rw [error?]
  cases p.refused <;> rfl

/-- **An error stays up from a refused Enter to the next edit.** Whatever keys came, Enter submits
exactly an empty or complete line and otherwise puts the error up, Enter, Escape and control-`c`
leave the rest of the prompt alone, and the error is up since an Enter was refused and no edit has
followed. So a line with an error is neither empty nor complete, and Enter refuses it again. -/
theorem refusal_until_edit (id label : String) (d : Text) (o : MaskOptions) (default : Option Text)
    (keys : List Key) :
    let start := opened id label d o default
    let p := start.after keys
    (∀ k : Key, k.code = .enter →
      p.press k = (if p.value = [] ∨ (Mask.compile d).isComplete o p.value = true
        then (.submitted p.value, p) else (.editing, { p with refused := true })) ∧
      ({ p with refused := true } : Prompt).error? = some "Invalid or incomplete value") ∧
    (∀ k : Key, k.Cancels → p.press k = (.cancelled, p)) ∧
    (p.error?.isSome = true ↔
      Since (fun past k => (start.after past).IsRefusal k)
        (fun past k => k.Edits (start.after past).buffer) keys) ∧
    (p.error?.isSome = true →
      p.value ≠ [] ∧ (Mask.compile d).isComplete o p.value = false ∧
      ∀ k : Key, k.code = .enter → p.press k = (.editing, p)) := by
  intro start p
  have hstart : start.Settled d o := settled_opened id label d o default
  have hrefused : start.refused = false := by
    cases default <;> rfl
  have h : p.Settled d o := hstart.after keys
  have haccept := h.acceptable_iff
  refine ⟨fun k hk => ⟨?_, rfl⟩, fun k hk => press_cancels hk, ?_, fun herror => ?_⟩
  · rw [press_enter hk]
    simp only [haccept]
  · rw [error?_isSome]
    exact refused_after_iff hrefused keys
  · rw [error?_isSome] at herror
    have hno : p.acceptable = false :=
      hstart.unacceptable_after (fun h => absurd (hrefused.symm.trans h) Bool.false_ne_true) keys
        herror
    obtain ⟨hvalue, hcomplete⟩ := not_or.1 (mt haccept.2 (Bool.eq_false_iff.1 hno))
    refine ⟨hvalue, Bool.eq_false_iff.2 hcomplete, fun k hk => ?_⟩
    have hsame : { p with refused := true } = p := by
      rw [← herror]
    rw [press_enter hk, hno, if_neg Bool.false_ne_true, hsame]

/-- A move keeps the error up and Enter refused; a character takes the error away, although no
placeholder takes the character. -/
theorem refusal_until_rejected_character :
    let start := opened "" "" "99-99".toList ⟨false⟩ none
    let moved := ("123".toList.map fun c => Key.plain (.char c)) ++ [.plain .enter, .plain .home]
    (start.after moved).error?.isSome = true ∧
    (start.after moved).press (.plain .enter) = (.editing, start.after moved) ∧
    (start.after (moved ++ [.plain (.char 'x')])).value = (start.after moved).value ∧
    (start.after (moved ++ [.plain (.char 'x')])).error? = none := by
  intro start moved
  obtain ⟨-, -, -, hrefuses⟩ := refusal_until_edit "" "" "99-99".toList ⟨false⟩ none moved
  have herror : (start.after moved).error?.isSome = true := by decide +kernel
  obtain ⟨-, -, henter⟩ := hrefuses herror
  exact ⟨herror, henter (.plain .enter) rfl, by decide +kernel, by decide +kernel⟩

end Prompt

end MaskedInput
