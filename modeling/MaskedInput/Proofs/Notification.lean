import MaskedInput.Prompt
import MaskedInput.Proofs.Layout

/-! What a notification does to a session and its field, and what a key does to a prompt. A text
that the session saw last changes nothing; another one is laid out anew and seen from then on. Of
the keys, only a cancellation and a submission do not end in a notification (`act_cases`). -/

namespace MaskedInput

namespace Session

variable {φ : Type} [TextField φ]

/-- The layout that a session gives a text. -/
def layout (s : Session) (text : Text) : Text :=
  (s.mask.pattern.format s.caseSensitive text).value

/-- The offset before the caret that a field reports, which is at the end if it reports none. -/
def anchor (field : φ) : Option Nat :=
  let caret := (TextField.caret? field).getD (TextField.text field).length
  if caret = 0 then none else some (caret - 1)

theorem notify_of_eq {s : Session} {field : φ} (h : TextField.text field = s.lastValue) :
    s.notify field = (false, s, field) := by
  simp only [notify, outcome, Pattern.apply, h, if_true]

theorem notify_of_ne {s : Session} {field : φ} (h : TextField.text field ≠ s.lastValue) :
    s.notify field =
      (true, { s with lastValue := s.layout (TextField.text field) },
        TextField.setCaret (TextField.setText field (s.layout (TextField.text field)))
          (Caret.repaired s.mask.pattern.tokens (anchor field)
            (s.layout (TextField.text field)))) := by
  simp only [notify, outcome, Pattern.apply, if_neg h]
  rfl

end Session

namespace Prompt

variable {p : Prompt} {a : Action}

theorem notify_of_eq (h : p.buffer.text = p.session.lastValue) : p.notify = p := by
  rw [notify, Session.notify_of_eq h]

theorem notify_of_ne (h : p.buffer.text ≠ p.session.lastValue) :
    p.notify =
      { p with
        session := { p.session with lastValue := p.session.layout p.buffer.text }
        buffer := (p.buffer.setText (p.session.layout p.buffer.text)).setCaret
          (Caret.repaired p.session.mask.pattern.tokens (Session.anchor p.buffer)
            (p.session.layout p.buffer.text)) } := by
  rw [notify, Session.notify_of_ne h]
  rfl

theorem act_of_edit {b : LineBuffer} (h : a.edit? p.buffer = some b) :
    p.act a = (.editing, notify { p with buffer := b, refused := false }) := by
  have hcancel : a ≠ .cancel := by
    rintro rfl
    cases h
  have hsubmit : a ≠ .submit := by
    rintro rfl
    cases h
  rw [act.eq_3 p a hcancel hsubmit, h]

theorem act_of_move (hcancel : a ≠ .cancel) (hsubmit : a ≠ .submit)
    (h : a.edit? p.buffer = none) :
    p.act a = (.editing, notify { p with buffer := a.move p.buffer }) := by
  rw [act.eq_3 p a hcancel hsubmit, h]

theorem press_of_char {k : Key} {c : Char} (hcode : k.code = .char c)
    (hplain : k.isControl = false) :
    p.press k = (.editing, notify { p with buffer := p.buffer.insert c, refused := false }) := by
  have haction : Action.ofKey k = .insert c := by
    rw [Action.ofKey, hcode]
    dsimp only
    rw [hplain]
    rfl
  rw [press, haction]
  exact act_of_edit rfl

/-- All that a key can do to a prompt. -/
theorem act_cases (p : Prompt) (a : Action) :
    (a = .cancel ∧ p.act a = (.cancelled, p)) ∨
    (a = .submit ∧ p.acceptable = true ∧ p.act a = (.submitted p.value, p)) ∨
    (a = .submit ∧ p.acceptable = false ∧ p.act a = (.editing, { p with refused := true })) ∨
    (∃ b, a.edit? p.buffer = some b ∧
      p.act a = (.editing, notify { p with buffer := b, refused := false })) ∨
    (a ≠ .cancel ∧ a ≠ .submit ∧ a.edit? p.buffer = none ∧
      p.act a = (.editing, notify { p with buffer := a.move p.buffer })) := by
  by_cases hcancel : a = .cancel
  · exact .inl ⟨hcancel, by rw [hcancel, act]⟩
  by_cases hsubmit : a = .submit
  · cases haccept : p.acceptable with
    | true => exact .inr (.inl ⟨hsubmit, rfl, by rw [hsubmit, act, if_pos haccept]⟩)
    | false => exact .inr (.inr (.inl ⟨hsubmit, rfl, by rw [hsubmit, act, haccept]; rfl⟩))
  cases hedit : a.edit? p.buffer with
  | some b => exact .inr (.inr (.inr (.inl ⟨b, rfl, act_of_edit hedit⟩)))
  | none =>
      exact .inr (.inr (.inr (.inr ⟨hcancel, hsubmit, rfl, act_of_move hcancel hsubmit hedit⟩)))

end Prompt

end MaskedInput
