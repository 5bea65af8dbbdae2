import MaskedInput.Proofs.Typing
import Mathlib.Data.List.Infix

/-! Layouts that go on. With more input, or on a mask that goes on behind its last token, the
placeholders first take what they took before. If they take more, the separators in between are
written out whether or not they were shown already; if not, separators at the end stay, because what
was unread is unread still. So the value only ever grows at its end (`display_extends`). -/

namespace MaskedInput

namespace Formatted

variable {cs : Bool} {tokens tokens' : List Token} {w w' : Text}

/-! ### Tokens written out further -/

/-- The tokens up to the first placeholder that finds no character. -/
def extent : List Token → Text → Text
  | [], _ => []
  | .separator l :: tokens, w => l :: extent tokens w
  | .placeholder _ :: _, [] => []
  | .placeholder _ :: tokens, c :: w => c :: extent tokens w

/-- These are the tokens up to the last character, and the separators behind it. -/
theorem extent_eq (tokens : List Token) (w : Text) :
    extent tokens w = spread tokens w ++ runAfter tokens w := by
  induction tokens generalizing w with
  | nil => cases w <;> rfl
  | cons t tokens ih =>
      cases t with
      | separator l =>
          cases w with
          | nil =>
              rw [extent, ih, spread_nil, spread_nil, runAfter_nil, runAfter_nil]
              rfl
          | cons c w =>
              rw [extent, ih, runAfter, runAfter, spread_separator]
              rfl
      | placeholder k =>
          cases w with
          | nil =>
              rw [extent, spread_nil, runAfter_nil]
              rfl
          | cons c w =>
              rw [extent, ih, runAfter, runAfter, spread_placeholder]
              rfl

theorem spread_prefix_extent (tokens : List Token) (w : Text) :
    spread tokens w <+: extent tokens w := by
  rw [extent_eq]
  exact List.prefix_append _ _

theorem extent_append (tokens extra : List Token) (w : Text) :
    extent tokens w <+: extent (tokens ++ extra) w := by
  induction tokens generalizing w with
  | nil => exact List.nil_prefix
  | cons t tokens ih =>
      cases t with
      | separator l => exact (List.prefix_cons_inj l).2 (ih w)
      | placeholder k =>
          cases w with
          | nil => exact List.nil_prefix
          | cons c w => exact (List.prefix_cons_inj c).2 (ih w)

theorem spread_append (tokens extra : List Token) (w : Text) :
    spread tokens w <+: spread (tokens ++ extra) w := by
  induction tokens generalizing w with
  | nil => cases w <;> exact List.nil_prefix
  | cons t tokens ih =>
      cases w with
      | nil =>
          rw [spread_nil]
          exact List.nil_prefix
      | cons c w =>
          rw [List.cons_append]
          cases t with
          | separator l =>
              rw [spread_separator, spread_separator]
              exact (List.prefix_cons_inj l).2 (ih (c :: w))
          | placeholder k =>
              rw [spread_placeholder, spread_placeholder]
              exact (List.prefix_cons_inj c).2 (ih w)

/-- One more character needs all separators in front of the placeholder that takes it. -/
theorem extent_prefix_spread (tokens extra : List Token) (w : Text) (c : Char) (u : Text) :
    extent tokens w <+: spread (tokens ++ extra) (w ++ c :: u) := by
  induction tokens generalizing w with
  | nil => exact List.nil_prefix
  | cons t tokens ih =>
      rw [List.cons_append]
      cases t with
      | separator l =>
          obtain ⟨a, x, hax⟩ : ∃ a x, w ++ c :: u = a :: x :=
            List.exists_cons_of_ne_nil (by simp)
          have hrest := ih w
          rw [hax] at hrest ⊢
          rw [extent, spread_separator]
          exact (List.prefix_cons_inj l).2 hrest
      | placeholder k =>
          cases w with
          | nil => exact List.nil_prefix
          | cons a w =>
              rw [extent, List.cons_append, spread_placeholder]
              exact (List.prefix_cons_inj a).2 (ih w)

theorem spread_prefix_display (tokens : List Token) (w : Text) (more : Bool) :
    spread tokens w <+: display tokens w more := by
  rw [display]
  split_ifs with hempty hmore
  · rw [hempty, spread_nil]
  · exact List.prefix_append _ _
  · exact List.prefix_append _ _

theorem display_prefix_extent (tokens : List Token) (w : Text) (more : Bool) :
    display tokens w more <+: extent tokens w := by
  rw [display]
  split_ifs with hempty hmore
  · exact List.nil_prefix
  · rw [extent_eq]
  · rw [List.append_nil]
    exact spread_prefix_extent tokens w

theorem display_true (tokens : List Token) (hw : w ≠ []) :
    display tokens w true = extent tokens w := by
  rw [display, if_neg hw, if_pos rfl, extent_eq]

/-- A layout of more characters on more tokens starts with that of the first ones, unless it shows
no others and has lost the separators at the end. -/
theorem display_extends {more more' : Bool} (htokens : tokens <+: tokens') (hw : w <+: w')
    (hmore : w' = w → more = true → more' = true) :
    display tokens w more <+: display tokens' w' more' := by
  obtain ⟨extra, rfl⟩ := htokens
  obtain ⟨u, rfl⟩ := hw
  cases u with
  | nil =>
      rw [List.append_nil] at hmore ⊢
      by_cases hempty : w = []
      · rw [display, if_pos hempty]
        exact List.nil_prefix
      cases more with
      | false =>
          rw [display_false]
          exact (spread_append tokens extra w).trans (spread_prefix_display _ w more')
      | true =>
          rw [hmore rfl rfl, display_true tokens hempty, display_true (tokens ++ extra) hempty]
          exact extent_append tokens extra w
  | cons c u =>
      have hshort := display_prefix_extent tokens w more
      have hlong := spread_prefix_display (tokens ++ extra) (w ++ c :: u) more'
      exact (hshort.trans (extent_prefix_spread tokens extra w c u)).trans hlong

/-! ### More classes for the same input -/

theorem taken_prefix_append (ks ls : List CharClass) (s : Text) :
    taken cs ks s <+: taken cs (ks ++ ls) s := by
  induction ks generalizing s with
  | nil => exact List.nil_prefix
  | cons k ks ih =>
      rw [List.cons_append, taken, taken]
      split
      · exact List.nil_prefix
      · rename_i c rest _
        exact (List.prefix_cons_inj c).2 (ih rest)

/-- Classes that take nothing more leave the same unread. -/
theorem unread_append_classes {ks ls : List CharClass} {s : Text}
    (h : taken cs (ks ++ ls) s = taken cs ks s) : unread cs (ks ++ ls) s = unread cs ks s := by
  induction ks generalizing s with
  | nil => exact unread_of_taken_eq_nil h
  | cons k ks ih =>
      rw [List.cons_append] at h ⊢
      rw [taken, taken] at h
      rw [unread, unread]
      rcases hs : s.dropWhile (!k.accepts cs ·) with _ | ⟨c, rest⟩
      · rfl
      · rw [hs] at h
        exact ih (List.cons.inj h).2

end Formatted

open Formatted

namespace Pattern

variable {d e : Text} {cs : Bool}

/-- Input that gives the placeholders nothing stays unread. -/
theorem hasMore_append {r x : Text}
    (hsame : (compile d).chosen cs (r ++ x) = (compile d).chosen cs r)
    (hmore : (compile d).hasMore cs r = true) : (compile d).hasMore cs (r ++ x) = true := by
  rw [chosen_append, List.append_right_eq_self] at hsame
  rw [hasMore, strip_append, unread_append, ← chosen, if_pos hsame]
  simp only [hasMore, Bool.not_eq_true', List.isEmpty_eq_false_iff] at hmore ⊢
  exact List.append_ne_nil_of_left_ne_nil hmore _

theorem strip_congr (hseps : (compile d).separators = (compile e).separators) (raw : Text) :
    (compile d).strip raw = (compile e).strip raw := by
  rw [strip_compile, strip_compile, hseps]

theorem chosen_extends (htokens : (compile d).tokens <+: (compile e).tokens)
    (hseps : (compile d).separators = (compile e).separators) (raw : Text) :
    (compile d).chosen cs raw <+: (compile e).chosen cs raw := by
  obtain ⟨extra, htokens⟩ := htokens
  rw [chosen, chosen, strip_congr hseps, ← htokens, classes, classes, List.filterMap_append]
  exact taken_prefix_append _ _ _

theorem hasMore_congr (htokens : (compile d).tokens <+: (compile e).tokens)
    (hseps : (compile d).separators = (compile e).separators) {raw : Text}
    (hsame : (compile e).chosen cs raw = (compile d).chosen cs raw) :
    (compile e).hasMore cs raw = (compile d).hasMore cs raw := by
  obtain ⟨extra, htokens⟩ := htokens
  rw [chosen, chosen, strip_congr hseps, ← htokens, classes, classes, List.filterMap_append]
    at hsame
  rw [hasMore, hasMore, strip_congr hseps, ← htokens, classes, classes, List.filterMap_append,
    unread_append_classes hsame]

/-- **A layout only grows at its end.** More input keeps the value as a beginning and every filled
placeholder filled, and so does a mask that goes on with further tokens of the same alphabet. -/
theorem format_extends (d e : Text) (cs : Bool) (r x : Text) :
    let p := compile d
    let q := compile e
    (p.format cs r).value <+: (p.format cs (r ++ x)).value ∧
    (p.format cs r).filled ≤ (p.format cs (r ++ x)).filled ∧
    (p.tokens <+: q.tokens → p.separators = q.separators →
      (p.format cs r).value <+: (q.format cs r).value ∧
      (p.format cs r).filled ≤ (q.format cs r).filled) := by
  intro p q
  have hchosen : p.chosen cs r <+: p.chosen cs (r ++ x) := by
    rw [chosen_append d r x cs]
    exact List.prefix_append _ _
  refine ⟨?_, ?_, fun htokens hseps => ⟨?_, ?_⟩⟩
  · rw [format_eq, format_eq]
    exact display_extends List.prefix_rfl hchosen hasMore_append
  · rw [format_eq, format_eq]
    exact hchosen.length_le
  · rw [format_eq, format_eq]
    refine display_extends htokens (chosen_extends htokens hseps r) fun hsame hmore => ?_
    rw [hasMore_congr htokens hseps hsame, hmore]
  · rw [format_eq, format_eq]
    exact (chosen_extends htokens hseps r).length_le

/-- A mask with a third group also shows the dash in front of it, since a character is left over,
and a digit after that character stands behind the dash. -/
theorem format_extends_group :
    let p := compile "99-99".toList
    let q := compile "99-99-99".toList
    p.tokens <+: q.tokens ∧ p.separators = q.separators ∧
    (p.format false "1234x".toList).value = "12-34".toList ∧
    (q.format false "1234x".toList).value = "12-34-".toList ∧
    (p.format false "1234x".toList).value <+: (q.format false "1234x".toList).value ∧
    (q.format false "1234x".toList).value <+: (q.format false "1234x5".toList).value := by
  intro p q
  have htokens : p.tokens <+: q.tokens := by decide +kernel
  have hseps : p.separators = q.separators := by decide +kernel
  obtain ⟨-, -, hlonger⟩ :=
    format_extends "99-99".toList "99-99-99".toList false "1234x".toList []
  obtain ⟨hinput, -, -⟩ :=
    format_extends "99-99-99".toList [] false "1234x".toList "5".toList
  exact ⟨htokens, hseps, by decide +kernel, by decide +kernel, (hlonger htokens hseps).1, hinput⟩

end Pattern

end MaskedInput
