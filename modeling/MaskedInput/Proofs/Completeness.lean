import MaskedInput.Mask.Basic
import MaskedInput.Proofs.Layout

/-! Complete values. A value that fits the tokens is, up to its last placeholder, the layout of the
characters on its placeholders (`spread_filter`). So laying out a value gives it back with every
placeholder filled exactly when it fits the tokens up to the last placeholder and ends there. -/

namespace MaskedInput

open Formatted

/-- A placeholder stands at an index, and none after it. -/
def IsLastPlaceholder (tokens : List Token) (q : Nat) : Prop :=
  (∃ k, tokens[q]? = some (.placeholder k)) ∧ ∀ i k, tokens[i]? = some (.placeholder k) → i ≤ q

/-- How many tokens there are up to the last placeholder, none without a placeholder. -/
def reach : List Token → Nat
  | [] => 0
  | .separator _ :: tokens => if reach tokens = 0 then 0 else reach tokens + 1
  | .placeholder _ :: tokens => reach tokens + 1

theorem reach_le_length (tokens : List Token) : reach tokens ≤ tokens.length := by
  induction tokens with
  | nil => exact Nat.le_refl 0
  | cons t tokens ih =>
      cases t with
      | separator l =>
          rw [reach, List.length_cons]
          split_ifs <;> omega
      | placeholder k => exact Nat.succ_le_succ ih

theorem reach_eq_zero_iff {tokens : List Token} :
    reach tokens = 0 ↔ ∀ (i : Nat) k, tokens[i]? ≠ some (.placeholder k) := by
  induction tokens with
  | nil => simp [reach]
  | cons t tokens ih =>
      cases t with
      | separator l =>
          have hreach : reach (.separator l :: tokens) = 0 ↔ reach tokens = 0 := by
            rw [reach]
            split_ifs with h <;> simp [h]
          rw [hreach, ih]
          constructor
          · intro h i k
            cases i with
            | zero => simp
            | succ i => simpa using h i k
          · intro h i k
            simpa using h (i + 1) k
      | placeholder k =>
          refine ⟨fun h => absurd h (Nat.succ_ne_zero _), fun h => absurd rfl (h 0 k)⟩

theorem IsLastPlaceholder.cons {tokens : List Token} {q : Nat} (h : IsLastPlaceholder tokens q)
    (t : Token) : IsLastPlaceholder (t :: tokens) (q + 1) := by
  obtain ⟨hq, hlast⟩ := h
  refine ⟨by simpa using hq, fun i k hi => ?_⟩
  cases i with
  | zero => exact Nat.zero_le _
  | succ i => exact Nat.succ_le_succ (hlast i k (by simpa using hi))

theorem isLastPlaceholder_of_reach {tokens : List Token} {q : Nat} (h : reach tokens = q + 1) :
    IsLastPlaceholder tokens q := by
  induction tokens generalizing q with
  | nil => cases h
  | cons t tokens ih =>
      cases t with
      | separator l =>
          rw [reach] at h
          split_ifs at h with hzero
          obtain ⟨q, rfl⟩ := Nat.exists_eq_succ_of_ne_zero (Nat.succ.inj h ▸ hzero)
          exact (ih (Nat.succ.inj h)).cons _
      | placeholder k =>
          rw [reach] at h
          cases q with
          | zero =>
              have hnone := reach_eq_zero_iff.1 (Nat.succ.inj h)
              refine ⟨⟨k, rfl⟩, fun i m hi => ?_⟩
              cases i with
              | zero => exact Nat.le_refl 0
              | succ i => exact absurd (by simpa using hi) (hnone i m)
          | succ q => exact (ih (Nat.succ.inj h)).cons _

/-- Every placeholder is reached. -/
theorem lt_reach {tokens : List Token} {i : Nat} {k : CharClass}
    (hi : tokens[i]? = some (.placeholder k)) : i < reach tokens := by
  cases hreach : reach tokens with
  | zero => exact absurd hi (reach_eq_zero_iff.1 hreach i k)
  | succ q => exact Nat.lt_succ_of_le ((isLastPlaceholder_of_reach hreach).2 i k hi)

theorem isLastPlaceholder_iff {tokens : List Token} {q : Nat} :
    IsLastPlaceholder tokens q ↔ reach tokens = q + 1 := by
  refine ⟨fun h => ?_, isLastPlaceholder_of_reach⟩
  obtain ⟨⟨k, hk⟩, hlast⟩ := h
  have hlt := lt_reach hk
  obtain ⟨p, hp⟩ := Nat.exists_eq_succ_of_ne_zero (Nat.ne_of_gt (Nat.zero_lt_of_lt hlt))
  obtain ⟨⟨m, hm⟩, -⟩ := isLastPlaceholder_of_reach hp
  rw [hp, Nat.le_antisymm (hlast p m hm) (Nat.le_of_lt_succ (hp ▸ hlt))]

theorem reach_take_reach (tokens : List Token) :
    reach (tokens.take (reach tokens)) = reach tokens := by
  induction tokens with
  | nil => rfl
  | cons t tokens ih =>
      cases t with
      | separator l =>
          rw [reach]
          split_ifs with h
          · rfl
          · rw [List.take_succ_cons, reach, ih, if_neg h]
      | placeholder k => rw [reach, List.take_succ_cons, reach, ih]

theorem classes_eq_nil_iff {tokens : List Token} : classes tokens = [] ↔ reach tokens = 0 := by
  induction tokens with
  | nil => simp [reach]
  | cons t tokens ih =>
      cases t with
      | separator l =>
          rw [classes_separator, ih, reach]
          split_ifs with h <;> simp [h]
      | placeholder k => simp [reach]

theorem classes_take_reach (tokens : List Token) :
    classes (tokens.take (reach tokens)) = classes tokens := by
  induction tokens with
  | nil => rfl
  | cons t tokens ih =>
      cases t with
      | separator l =>
          rw [reach]
          split_ifs with h
          · exact (classes_eq_nil_iff.2 h).symm
          · rw [List.take_succ_cons, classes_separator, classes_separator, ih]
      | placeholder k =>
          rw [reach, List.take_succ_cons, classes_placeholder, classes_placeholder, ih]

/-- A layout with a character for every placeholder ends on the last one. -/
theorem length_spread {tokens : List Token} {w : Text}
    (hlen : w.length = (classes tokens).length) : (spread tokens w).length = reach tokens := by
  induction tokens generalizing w with
  | nil =>
      rw [classes_nil, List.length_nil, List.length_eq_zero_iff] at hlen
      rw [hlen, spread_nil]
      rfl
  | cons t tokens ih =>
      cases t with
      | separator l =>
          rw [classes_separator] at hlen
          rcases w with _ | ⟨c, w⟩
          · have hnil := List.eq_nil_of_length_eq_zero hlen.symm
            rw [spread_nil, reach, if_pos (classes_eq_nil_iff.1 hnil)]
            rfl
          · have hne : reach tokens ≠ 0 := by
              rw [Ne, ← classes_eq_nil_iff]
              intro h
              simp [h] at hlen
            rw [spread, List.length_cons, ih hlen, reach, if_neg hne]
      | placeholder k =>
          rcases w with _ | ⟨c, w⟩
          · simp at hlen
          · rw [spread, List.length_cons, ih (Nat.succ.inj hlen), reach]

/-! ### The characters on the placeholders -/

section Fitting

variable {p : Pattern} {cs : Bool} {tokens : List Token} {v : Text}

theorem fits_filter (hsep : EachSeparator (· ∈ p.separators) tokens)
    (hv : Fits (p.Admits cs) tokens v) :
    Fits (fun k c => p.Admits cs (.placeholder k) c) (classes tokens)
      (v.filter (· ∉ p.separators)) := by
  induction hv with
  | nil tokens => exact .nil _
  | @cons t c tokens v head tail ih =>
      cases t with
      | separator l =>
          have hc : c ∈ p.separators := head ▸ hsep.head
          rw [List.filter_cons_of_neg (by simpa using hc)]
          exact ih hsep.tail
      | placeholder k =>
          rw [List.filter_cons_of_pos (by simpa using head.2)]
          exact .cons head (ih hsep.tail)

theorem length_filter (hsep : EachSeparator (· ∈ p.separators) tokens)
    (hv : Fits (p.Admits cs) tokens v) :
    (v.filter (· ∉ p.separators)).length = (classes (tokens.take v.length)).length := by
  induction hv with
  | nil tokens => rfl
  | @cons t c tokens v head tail ih =>
      cases t with
      | separator l =>
          have hc : c ∈ p.separators := head ▸ hsep.head
          rw [List.filter_cons_of_neg (by simpa using hc)]
          exact ih hsep.tail
      | placeholder k =>
          rw [List.filter_cons_of_pos (by simpa using head.2)]
          exact congrArg (· + 1) (ih hsep.tail)

/-- Up to its last placeholder, a value that fits is the layout of its other characters. -/
theorem spread_filter (hsep : EachSeparator (· ∈ p.separators) tokens)
    (hv : Fits (p.Admits cs) tokens v) :
    spread tokens (v.filter (· ∉ p.separators)) = v.take (reach (tokens.take v.length)) := by
  induction hv with
  | nil tokens => simp
  | @cons t c tokens v head tail ih =>
      have hlen := length_filter hsep.tail tail
      cases t with
      | separator l =>
          have hc : c ∈ p.separators := head ▸ hsep.head
          rw [List.filter_cons_of_neg (by simpa using hc), List.length_cons, List.take_succ_cons,
            reach]
          split_ifs with hzero
          · rw [classes_eq_nil_iff.2 hzero, List.length_nil, List.length_eq_zero_iff] at hlen
            rw [hlen, spread_nil, List.take_zero]
          · rw [List.take_succ_cons, ← ih hsep.tail]
            rcases hw : v.filter (· ∉ p.separators) with _ | ⟨d, w⟩
            · rw [hw, List.length_nil, eq_comm, List.length_eq_zero_iff, classes_eq_nil_iff] at hlen
              exact absurd hlen hzero
            · rw [spread, head]
      | placeholder k =>
          rw [List.filter_cons_of_pos (by simpa using head.2), spread, ih hsep.tail,
            List.length_cons, List.take_succ_cons, reach, List.take_succ_cons]

/-- What is cut off behind the last placeholder stands on no placeholder. -/
theorem getElem?_take_reach {i : Nat} {k : CharClass} (hi : tokens[i]? = some (.placeholder k)) :
    (v.take (reach (tokens.take v.length)))[i]? = v[i]? := by
  by_cases hv : i < v.length
  · have hlt := lt_reach ((List.getElem?_take_of_lt hv).trans hi)
    exact List.getElem?_take_of_lt hlt
  · have hnone : v.length ≤ i := Nat.le_of_not_lt hv
    rw [List.getElem?_eq_none hnone, List.getElem?_eq_none]
    exact Nat.le_trans (List.length_take_le' _ _) hnone

end Fitting

namespace Pattern

variable {d v : Text} {cs : Bool}

theorem holds_strip (hv : Fits ((compile d).Admits cs) (compile d).tokens v) :
    (compile d).Holds cs ((compile d).strip v) := by
  rw [strip_compile]
  exact fits_filter (eachSeparator_compile d) hv

/-- Up to its last placeholder, a layout of a text is that of the characters it has taken. -/
theorem spread_chosen (d : Text) (cs : Bool) (raw : Text) :
    spread (compile d).tokens ((compile d).chosen cs raw) =
      ((compile d).format cs raw).value.take
        (reach ((compile d).tokens.take ((compile d).format cs raw).value.length)) := by
  rw [← strip_format, strip_compile]
  exact spread_filter (eachSeparator_compile d) (fits_format d cs raw)

/-- A text without separators whose characters the placeholders hold is laid out as it is. -/
theorem format_of_holds_strip {raw : Text} (hw : (compile d).Holds cs ((compile d).strip raw)) :
    (compile d).format cs raw =
      ⟨spread (compile d).tokens ((compile d).strip raw), ((compile d).strip raw).length⟩ := by
  rw [format_eq, chosen, hasMore, taken_of_fits hw.accepted, unread_of_fits hw.accepted]
  simp

end Pattern

namespace Mask

theorem isComplete_eq_true {d v : Text} {o : MaskOptions} :
    (compile d).isComplete o v = true ↔
      (Pattern.compile d).format o.caseSensitive v = ⟨v, (Pattern.compile d).placeholderCount⟩ := by
  rcases hf : (Pattern.compile d).format o.caseSensitive v with ⟨value, filled⟩
  rw [isComplete, pattern_compile, hf, Bool.and_eq_true, decide_eq_true_iff, decide_eq_true_iff,
    and_comm, Formatted.mk.injEq]

theorem isComplete_iff_fits (d v : Text) (o : MaskOptions) :
    (compile d).isComplete o v = true ↔ v.length = reach (Pattern.compile d).tokens ∧
      Fits ((Pattern.compile d).Admits o.caseSensitive) (Pattern.compile d).tokens v := by
  rw [isComplete_eq_true]
  constructor
  · intro h
    have hv := Pattern.fits_format d o.caseSensitive v
    rw [h] at hv
    have hspread := Pattern.format_of_holds_strip (Pattern.holds_strip hv)
    rw [h, Formatted.mk.injEq] at hspread
    refine ⟨?_, hv⟩
    rw [hspread.1]
    exact length_spread (hspread.2.symm.trans (length_classes _).symm)
  · rintro ⟨hlen, hv⟩
    have hsep := Pattern.eachSeparator_compile d
    rw [Pattern.format_of_holds_strip (Pattern.holds_strip hv), Pattern.strip_compile,
      length_filter hsep hv, spread_filter hsep hv, hlen, classes_take_reach, reach_take_reach,
      ← hlen, List.take_length, length_classes]

/-- **Complete values are those of the mask's grammar.** They have one character for each token up
to the last placeholder, each where it may stand; without a placeholder only nothing is complete. -/
theorem isComplete_iff_grammar (d v : Text) (o : MaskOptions) :
    (compile d).isComplete o v = true ↔
      ((∀ (i : Nat) k, (Pattern.compile d).tokens[i]? ≠ some (.placeholder k)) ∧ v = []) ∨
      ∃ q, IsLastPlaceholder (Pattern.compile d).tokens q ∧ v.length = q + 1 ∧
        ∀ i ≤ q, ∃ t c, (Pattern.compile d).tokens[i]? = some t ∧ v[i]? = some c ∧
          (Pattern.compile d).Admits o.caseSensitive t c := by
  rw [isComplete_iff_fits]
  constructor
  · rintro ⟨hlen, hv⟩
    cases hreach : reach (Pattern.compile d).tokens with
    | zero =>
        have hnil := List.eq_nil_of_length_eq_zero (hlen.trans hreach)
        exact .inl ⟨reach_eq_zero_iff.1 hreach, hnil⟩
    | succ q =>
        refine .inr ⟨q, isLastPlaceholder_of_reach hreach, hlen.trans hreach, fun i hi => ?_⟩
        have hlt : i < v.length := by omega
        obtain ⟨t, ht, hadmits⟩ := hv.exists_admits (List.getElem?_eq_getElem hlt)
        exact ⟨t, v[i], ht, List.getElem?_eq_getElem hlt, hadmits⟩
  · rintro (⟨hnone, rfl⟩ | ⟨q, hq, hlen, hadmits⟩)
    · exact ⟨(reach_eq_zero_iff.2 hnone).symm, .nil _⟩
    · have hreach := isLastPlaceholder_iff.1 hq
      refine ⟨hlen.trans hreach.symm, .of_admits (hlen ▸ hreach ▸ reach_le_length _) ?_⟩
      intro i t c ht hc
      have hi : i < v.length := (List.getElem?_eq_some_iff.1 hc).1
      obtain ⟨t', c', ht', hc', h⟩ := hadmits i (by omega)
      rw [ht, Option.some.injEq] at ht'
      rw [hc, Option.some.injEq] at hc'
      rw [ht', hc']
      exact h

end Mask

end MaskedInput
