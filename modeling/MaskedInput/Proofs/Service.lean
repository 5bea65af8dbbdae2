import MaskedInput.Proofs.Notification

/-! A session in the service of a field. Between two notifications anything may happen to the field
and to the mask; a notification finds out by the text alone whether there is something to do, and
leaves the session with the text that the field then has (`text_notify`). So telling it twice is
telling it once. All that is asked of a field is that it keeps what is written to it. -/

namespace MaskedInput

/-- A field that keeps the text written to it, and a caret written inside its text. It holds the
caret whether or not it reports one. -/
class LawfulField (φ : Type) [TextField φ] where
  held : φ → Option Nat
  held_of_caret? : ∀ {f : φ} {n : Nat}, TextField.caret? f = some n → held f = some n
  text_setText : ∀ (f : φ) (t : Text), TextField.text (TextField.setText f t) = t
  text_setCaret : ∀ (f : φ) (n : Nat), TextField.text (TextField.setCaret f n) = TextField.text f
  held_setCaret : ∀ {f : φ} {n : Nat}, n ≤ (TextField.text f).length →
    held (TextField.setCaret f n) = some n

instance : LawfulField LineBuffer where
  held b := some b.caret
  held_of_caret? h := h
  text_setText _ _ := rfl
  text_setCaret _ _ := rfl
  held_setCaret h := congrArg some (Nat.min_eq_left h)

instance : LawfulField SilentField where
  held := SilentField.stored
  held_of_caret? h := by cases h
  text_setText _ _ := rfl
  text_setCaret _ _ := rfl
  held_setCaret _ := rfl

instance : LawfulField LooseField where
  held := LooseField.stored
  held_of_caret? h := h
  text_setText _ _ := rfl
  text_setCaret _ _ := rfl
  held_setCaret _ := rfl

namespace Session

variable {φ : Type} [TextField φ] {s : Session} {f : φ} {o : MaskOptions}

/-! ### One notification -/

theorem notify_fst : (s.notify f).1 = true ↔ TextField.text f ≠ s.lastValue := by
  by_cases h : TextField.text f = s.lastValue
  · rw [notify_of_eq h]
    simp [h]
  · rw [notify_of_ne h]
    simp [h]

theorem notify_of_fst_eq_false (h : (s.notify f).1 = false) : (s.notify f).2 = (s, f) := by
  by_cases heq : TextField.text f = s.lastValue
  · rw [notify_of_eq heq]
  · rw [notify_fst.2 heq] at h
    cases h

/-- After a notification the session has seen the text of its field. -/
theorem text_notify [LawfulField φ] (s : Session) (f : φ) :
    TextField.text (s.notify f).2.2 = (s.notify f).2.1.lastValue := by
  by_cases h : TextField.text f = s.lastValue
  · rw [notify_of_eq h]
    exact h
  · rw [notify_of_ne h]
    exact (LawfulField.text_setCaret _ _).trans (LawfulField.text_setText f _)

theorem notify_notify [LawfulField φ] (s : Session) (f : φ) :
    (s.notify f).2.1.notify (s.notify f).2.2 = (false, (s.notify f).2) := by
  rw [notify_of_eq (text_notify s f)]

/-- A repaired caret is inside the text that is written before it, so no field cuts it off. -/
theorem held_notify [LawfulField φ] (h : TextField.text f ≠ s.lastValue) :
    LawfulField.held (s.notify f).2.2 =
      some (Caret.repaired s.mask.pattern.tokens (anchor f) (s.layout (TextField.text f))) := by
  rw [notify_of_ne h]
  refine LawfulField.held_setCaret ?_
  rw [LawfulField.text_setText]
  exact Nat.min_le_right _ _

/-! ### What stays as it is -/

/-- A session whose pattern is that of its definition, and that matches as it was told to. -/
structure Coherent (o : MaskOptions) (s : Session) : Prop where
  mask_eq : s.mask = .compile s.mask.definition
  caseSensitive_eq : s.caseSensitive = o.caseSensitive

theorem lastValue_setMask (s : Session) (e : Text) : (s.setMask e).lastValue = s.lastValue := by
  rw [setMask]
  split_ifs <;> rfl

theorem Coherent.mask_setMask (h : s.Coherent o) (e : Text) : (s.setMask e).mask = .compile e := by
  rw [setMask]
  split_ifs with heq
  · rw [← heq]
    exact h.mask_eq
  · rfl

theorem Coherent.setMask (h : s.Coherent o) (e : Text) : (s.setMask e).Coherent o := by
  constructor
  · rw [h.mask_setMask e]
    rfl
  · rw [Session.setMask]
    split_ifs
    · exact h.caseSensitive_eq
    · exact h.caseSensitive_eq

theorem Coherent.notify (h : s.Coherent o) (f : φ) : (s.notify f).2.1.Coherent o := by
  by_cases heq : TextField.text f = s.lastValue
  · rw [notify_of_eq heq]
    exact h
  · rw [notify_of_ne heq]
    exact ⟨h.mask_eq, h.caseSensitive_eq⟩

theorem Coherent.layout_eq (h : s.Coherent o) (text : Text) :
    s.layout text =
      ((Pattern.compile s.mask.definition).format o.caseSensitive text).value := by
  rw [layout, h.mask_eq, h.caseSensitive_eq]
  rfl

/-! ### A run of service -/

/-- A session and the field that it serves. -/
structure Service (φ : Type) where
  session : Session
  field : φ

namespace Service

/-- What may happen: any change of the field's text and caret, another mask, a notification. -/
inductive Step (φ : Type) where
  | edit (change : φ → φ)
  | setMask (definition : Text)
  | notify

/-- A session at its start, which has seen the text of its field if it is seeded. -/
def start (seeded : Bool) (d : Text) (o : MaskOptions) (field : φ) : Service φ :=
  ⟨if seeded then attach field (.compile d) o else unseeded (.compile d) o, field⟩

def step (w : Service φ) : Step φ → Service φ
  | .edit change => { w with field := change w.field }
  | .setMask definition => { w with session := w.session.setMask definition }
  | .notify =>
    let (_, session, field) := w.session.notify w.field
    { session, field }

def after (w : Service φ) (steps : List (Step φ)) : Service φ := steps.foldl step w

theorem coherent_start (seeded : Bool) (d : Text) (o : MaskOptions) (field : φ) :
    (start seeded d o field).session.Coherent o := by
  cases seeded with
  | false => exact ⟨rfl, rfl⟩
  | true => exact ⟨rfl, rfl⟩

theorem coherent_step {w : Service φ} (h : w.session.Coherent o) (x : Step φ) :
    (w.step x).session.Coherent o := by
  cases x with
  | edit change => exact h
  | setMask definition => exact h.setMask definition
  | notify => exact h.notify w.field

theorem coherent_after {w : Service φ} (h : w.session.Coherent o) (steps : List (Step φ)) :
    (w.after steps).session.Coherent o := by
  induction steps generalizing w with
  | nil => exact h
  | cons x steps ih => exact ih (coherent_step h x)

/-- **A notification is exact.** Whatever happened to a field and to the mask of its session, the
next notification reports a change exactly when the text is not the one that the session has seen;
then text and caret become those that the present mask gives, and otherwise nothing changes. Either
way the session has seen the text that the field is left with, and telling it again does nothing. -/
theorem notify_exact [LawfulField φ] (seeded : Bool) (d : Text) (o : MaskOptions) (field : φ)
    (steps : List (Step φ)) :
    let w := (start seeded d o field).after steps
    let m := Pattern.compile w.session.mask.definition
    let current := TextField.text w.field
    let value := (m.format o.caseSensitive current).value
    let told := w.session.notify w.field
    w.session.mask = .compile w.session.mask.definition ∧
    w.session.caseSensitive = o.caseSensitive ∧
    (∀ e : Text, (w.session.setMask e).mask = .compile e ∧
      (w.session.setMask e).lastValue = w.session.lastValue) ∧
    TextField.text told.2.2 = told.2.1.lastValue ∧
    (told.1 = true ↔ current ≠ w.session.lastValue) ∧
    (told.1 = true → TextField.text told.2.2 = value ∧ told.2.1.lastValue = value ∧
      ∃ caret, LawfulField.held told.2.2 = some caret ∧
        m.apply o.caseSensitive w.session.lastValue current (anchor w.field) =
          .reformatted value caret) ∧
    (told.1 = false → told.2 = (w.session, w.field)) ∧
    told.2.1.notify told.2.2 = (false, told.2) := by
  intro w m current value told
  have h : w.session.Coherent o := coherent_after (coherent_start seeded d o field) steps
  have hseen : TextField.text told.2.2 = told.2.1.lastValue := text_notify w.session w.field
  refine ⟨h.mask_eq, h.caseSensitive_eq, fun e => ⟨h.mask_setMask e, lastValue_setMask _ e⟩, hseen,
    notify_fst, fun hchanged => ?_, notify_of_fst_eq_false, notify_notify w.session w.field⟩
  have hne : current ≠ w.session.lastValue := notify_fst.1 hchanged
  have hlayout : w.session.layout current = value := h.layout_eq current
  have hlast : told.2.1.lastValue = value := by
    rw [← hlayout, show told = _ from notify_of_ne hne]
  have hpattern : w.session.mask.pattern = m := congrArg Mask.pattern h.mask_eq
  refine ⟨hseen.trans hlast, hlast, _, held_notify hne, ?_⟩
  rw [Pattern.apply, if_neg hne, hpattern, hlayout]

/-- A field that reports the last offset there is gets a caret inside the new text. -/
theorem notify_far_caret :
    let w := (start false "99".toList ⟨false⟩ (LooseField.mk "12".toList none)).after
      [.notify, .setMask "99-99".toList, .edit fun _ => ⟨"123".toList, some maxOffset⟩]
    let told := w.session.notify w.field
    told.1 = true ∧ told.2.2 = ⟨"12-3".toList, some 4⟩ ∧ told.2.1.lastValue = "12-3".toList ∧
    told.2.1.notify told.2.2 = (false, told.2) := by
  intro w told
  obtain ⟨-, -, -, -, hchanged, hexact, -, hagain⟩ := notify_exact false "99".toList ⟨false⟩
    (LooseField.mk "12".toList none)
    [.notify, .setMask "99-99".toList, .edit fun _ => ⟨"123".toList, some maxOffset⟩]
  have htold : told.1 = true := hchanged.2 (by decide +kernel)
  obtain ⟨-, hlast, -⟩ := hexact htold
  exact ⟨htold, by decide +kernel, hlast.trans (by decide +kernel), hagain⟩

end Service

end Session

end MaskedInput
