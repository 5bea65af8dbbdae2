import MaskedInput.Proofs.Layout

/-! Which characters of an input the placeholders take. A choice gives the first classes increasing
positions of characters that they accept. Taking the first accepted character each time stays ahead
of every choice, so it is the leftmost and a longest one (`exists_le_leftmost`); a format is made of
its characters. -/

namespace MaskedInput

open Formatted

/-- Increasing positions of an input, one for each of the first classes, which accepts the
character there. -/
structure Choice (cs : Bool) (s : Text) (ks : List CharClass) (positions : List Nat) : Prop where
  increasing : positions.Pairwise (· < ·)
  length_le : positions.length ≤ ks.length
  accepted : ∀ (j i : Nat) (k : CharClass), positions[j]? = some i → ks[j]? = some k →
    ∃ c, s[i]? = some c ∧ k.accepts cs c = true

/-- A choice that starts at some position, built from its first position on. -/
inductive ChoiceFrom (cs : Bool) (s : Text) : Nat → List CharClass → List Nat → Prop
  | nil (start : Nat) (ks : List CharClass) : ChoiceFrom cs s start ks []
  | cons {start i : Nat} {c : Char} {k : CharClass} {ks : List CharClass} {positions : List Nat}
      (start_le : start ≤ i) (read : s[i]? = some c) (accepted : k.accepts cs c = true)
      (tail : ChoiceFrom cs s (i + 1) ks positions) :
      ChoiceFrom cs s start (k :: ks) (i :: positions)

variable {cs : Bool} {s : Text}

namespace ChoiceFrom

theorem start_le_of_mem {start : Nat} {ks : List CharClass} {positions : List Nat}
    (h : ChoiceFrom cs s start ks positions) {i : Nat} (hi : i ∈ positions) : start ≤ i := by
  induction h with
  | nil => cases hi
  | cons start_le read accepted tail ih =>
      rcases List.mem_cons.1 hi with rfl | hi
      · exact start_le
      · have := ih hi
        omega

theorem of_le {start start' : Nat} (hle : start' ≤ start) {ks : List CharClass}
    {positions : List Nat} (h : ChoiceFrom cs s start ks positions) :
    ChoiceFrom cs s start' ks positions := by
  cases h with
  | nil => exact .nil _ _
  | cons start_le read accepted tail => exact .cons (Nat.le_trans hle start_le) read accepted tail

theorem choice {start : Nat} {ks : List CharClass} {positions : List Nat}
    (h : ChoiceFrom cs s start ks positions) : Choice cs s ks positions := by
  induction h with
  | nil start ks => exact ⟨.nil, Nat.zero_le _, fun j i k hj => by simp at hj⟩
  | @cons start i c k ks positions start_le read accepted tail ih =>
      refine ⟨List.pairwise_cons.2 ⟨fun j hj => tail.start_le_of_mem hj, ih.increasing⟩,
        Nat.succ_le_succ ih.length_le, fun j i' k' hi hk => ?_⟩
      cases j with
      | zero =>
          rw [List.getElem?_cons_zero, Option.some.injEq] at hi hk
          exact ⟨c, hi ▸ read, hk ▸ accepted⟩
      | succ j => exact ih.accepted j i' k' (by simpa using hi) (by simpa using hk)

/-- Every position of a choice has a character. -/
theorem length_filterMap {start : Nat} {ks : List CharClass} {positions : List Nat}
    (h : ChoiceFrom cs s start ks positions) :
    (positions.filterMap (s[·]?)).length = positions.length := by
  induction h with
  | nil => rfl
  | cons start_le read accepted tail ih =>
      rw [List.filterMap_cons_some read, List.length_cons, List.length_cons, ih]

end ChoiceFrom

theorem Choice.choiceFrom {start : Nat} {ks : List CharClass} {positions : List Nat}
    (h : Choice cs s ks positions) (hstart : ∀ i ∈ positions, start ≤ i) :
    ChoiceFrom cs s start ks positions := by
  induction positions generalizing start ks with
  | nil => exact .nil start ks
  | cons i positions ih =>
      cases ks with
      | nil => exact absurd h.length_le (by simp)
      | cons k ks =>
          obtain ⟨hlt, hrest⟩ := List.pairwise_cons.1 h.increasing
          obtain ⟨c, read, accepted⟩ := h.accepted 0 i k rfl rfl
          refine .cons (hstart i List.mem_cons_self) read accepted (ih ⟨hrest, ?_, ?_⟩ hlt)
          · exact Nat.le_of_succ_le_succ h.length_le
          · intro j i' k' hi hk
            exact h.accepted (j + 1) i' k' (by simpa using hi) (by simpa using hk)

/-! ### The leftmost choice -/

/-- The first position from some position on whose character a class accepts. -/
def nextAccepted (cs : Bool) (s : Text) (k : CharClass) (start : Nat) : Option Nat :=
  ((s.drop start).findIdx? (k.accepts cs ·)).map (start + ·)

/-- The positions that classes come to when each takes the first character that it accepts. -/
def leftmost (cs : Bool) (s : Text) : Nat → List CharClass → List Nat
  | _, [] => []
  | start, k :: ks =>
    match nextAccepted cs s k start with
    | none => []
    | some i => i :: leftmost cs s (i + 1) ks

theorem nextAccepted_eq_some {k : CharClass} {start i : Nat}
    (h : nextAccepted cs s k start = some i) :
    start ≤ i ∧ (∃ c, s[i]? = some c ∧ k.accepts cs c = true) ∧
      (s.drop start).dropWhile (!k.accepts cs ·) = s.drop i := by
  obtain ⟨n, hn, rfl⟩ := Option.map_eq_some_iff.1 h
  obtain ⟨hlt, hk, -⟩ := List.findIdx?_eq_some_iff_getElem.1 hn
  obtain ⟨-, hfind⟩ := List.findIdx?_eq_some_iff_findIdx_eq.1 hn
  refine ⟨Nat.le_add_right start n, ⟨(s.drop start)[n], ?_, hk⟩, ?_⟩
  · rw [← List.getElem?_drop, List.getElem?_eq_getElem hlt]
  · rw [List.dropWhile_eq_drop_findIdx_not]
    simp only [Bool.not_not]
    rw [hfind, List.drop_drop]

theorem exists_nextAccepted_le {k : CharClass} {start i : Nat} {c : Char} (hstart : start ≤ i)
    (hc : s[i]? = some c) (hk : k.accepts cs c = true) :
    ∃ b, nextAccepted cs s k start = some b ∧ b ≤ i := by
  obtain ⟨n, rfl⟩ := Nat.exists_eq_add_of_le hstart
  rw [← List.getElem?_drop] at hc
  obtain ⟨hlt, rfl⟩ := List.getElem?_eq_some_iff.1 hc
  cases hfind : (s.drop start).findIdx? (k.accepts cs ·) with
  | none =>
      rw [List.findIdx?_eq_none_iff] at hfind
      rw [hfind _ (List.getElem_mem hlt)] at hk
      cases hk
  | some m =>
      refine ⟨start + m, by rw [nextAccepted, hfind]; rfl, ?_⟩
      obtain ⟨_, -, hfirst⟩ := List.findIdx?_eq_some_iff_getElem.1 hfind
      have hle : m ≤ n := Nat.le_of_not_lt fun hnm => hfirst n hnm hk
      omega

theorem nextAccepted_eq_none {k : CharClass} {start : Nat} (h : nextAccepted cs s k start = none) :
    (s.drop start).dropWhile (!k.accepts cs ·) = [] := by
  rw [nextAccepted, Option.map_eq_none_iff, List.findIdx?_eq_none_iff_findIdx_eq] at h
  rw [List.dropWhile_eq_drop_findIdx_not]
  simp only [Bool.not_not]
  rw [h, List.drop_length]

theorem choiceFrom_leftmost (start : Nat) (ks : List CharClass) :
    ChoiceFrom cs s start ks (leftmost cs s start ks) := by
  induction ks generalizing start with
  | nil => exact .nil start []
  | cons k ks ih =>
      rw [leftmost]
      split
      · exact .nil start _
      · rename_i i hi
        obtain ⟨hstart, ⟨c, hc, hk⟩, -⟩ := nextAccepted_eq_some hi
        exact .cons hstart hc hk (ih (i + 1))

/-- The leftmost choice stays ahead: where another choice has a position, it has one as well, and
none is later. -/
theorem exists_le_leftmost {start : Nat} {ks : List CharClass} {other : List Nat}
    (h : ChoiceFrom cs s start ks other) {j i : Nat} (hi : other[j]? = some i) :
    ∃ b, (leftmost cs s start ks)[j]? = some b ∧ b ≤ i := by
  induction ks generalizing start other j with
  | nil =>
      cases h
      simp at hi
  | cons k ks ih =>
      cases h with
      | nil => simp at hi
      | @cons _ first c _ _ later start_le read accepted tail =>
          obtain ⟨b, hb, hle⟩ := exists_nextAccepted_le start_le read accepted
          rw [leftmost, hb]
          cases j with
          | zero =>
              rw [List.getElem?_cons_zero, Option.some.injEq] at hi
              exact ⟨b, rfl, hi ▸ hle⟩
          | succ j =>
              -- the rest of the other choice starts after its first position, so also after `b`
              exact ih (tail.of_le (Nat.succ_le_succ hle)) (by simpa using hi)

theorem length_le_leftmost {start : Nat} {ks : List CharClass} {other : List Nat}
    (h : ChoiceFrom cs s start ks other) : other.length ≤ (leftmost cs s start ks).length := by
  apply Nat.le_of_not_lt
  intro hlt
  obtain ⟨b, hb, -⟩ := exists_le_leftmost h (List.getElem?_eq_getElem hlt)
  rw [List.getElem?_eq_none (Nat.le_refl _)] at hb
  cases hb

theorem taken_eq_leftmost (start : Nat) (ks : List CharClass) :
    taken cs ks (s.drop start) = (leftmost cs s start ks).filterMap (s[·]?) := by
  induction ks generalizing start with
  | nil => rfl
  | cons k ks ih =>
      rw [leftmost, taken]
      cases hi : nextAccepted cs s k start with
      | none => rw [nextAccepted_eq_none hi]; rfl
      | some i =>
          obtain ⟨-, ⟨c, hc, -⟩, hdrop⟩ := nextAccepted_eq_some hi
          obtain ⟨hlt, rfl⟩ := List.getElem?_eq_some_iff.1 hc
          rw [hdrop, List.drop_eq_getElem_cons hlt, List.filterMap_cons_some hc]
          exact congrArg _ (ih (i + 1))

theorem unread_eq_leftmost (start : Nat) (ks : List CharClass) :
    unread cs ks (s.drop start) =
      s.drop ((leftmost cs s start ks).getLast?.elim start (· + 1)) := by
  induction ks generalizing start with
  | nil => rfl
  | cons k ks ih =>
      rw [leftmost, unread]
      cases hi : nextAccepted cs s k start with
      | none => rw [nextAccepted_eq_none hi]; rfl
      | some i =>
          obtain ⟨-, ⟨c, hc, -⟩, hdrop⟩ := nextAccepted_eq_some hi
          obtain ⟨hlt, rfl⟩ := List.getElem?_eq_some_iff.1 hc
          rw [hdrop, List.drop_eq_getElem_cons hlt]
          dsimp only
          rw [ih, List.getLast?_cons]
          cases (leftmost cs s (i + 1) ks).getLast? <;> rfl

section Format

variable {p : Pattern} {raw : Text}

theorem chosen_eq_leftmost (hs : p.strip raw = s) :
    p.chosen cs raw = (leftmost cs s 0 (classes p.tokens)).filterMap (s[·]?) := by
  rw [Pattern.chosen, hs]
  exact taken_eq_leftmost 0 _

theorem length_chosen (hs : p.strip raw = s) :
    (p.chosen cs raw).length = (leftmost cs s 0 (classes p.tokens)).length := by
  rw [chosen_eq_leftmost hs, (choiceFrom_leftmost 0 _).length_filterMap]

theorem hasMore_iff (hs : p.strip raw = s) (hne : leftmost cs s 0 (classes p.tokens) ≠ []) :
    p.hasMore cs raw = true ↔ (leftmost cs s 0 (classes p.tokens)).getLastD 0 + 1 < s.length := by
  have hunread := @unread_eq_leftmost cs s 0 (classes p.tokens)
  rw [List.getLast?_eq_some_getLast hne, Option.elim_some, List.drop_zero] at hunread
  rw [Pattern.hasMore, hs, hunread, List.getLastD_eq_getLast?, List.getLast?_eq_some_getLast hne]
  simp

end Format

/-- **A format shows the leftmost choice.** What is left of a raw text without the separators is
matched with the classes of the placeholders as far as any increasing choice of positions goes, by
the choice that is nowhere later than another. The value is the mask up to the placeholder of the
last character, and the separators after it if the input goes on after that character. -/
theorem format_leftmost (d raw : Text) (cs : Bool) :
    let p := Pattern.compile d
    let s := raw.filter (· ∉ p.separators)
    let f := p.format cs raw
    ∃ best : List Nat, Choice cs s (classes p.tokens) best ∧ best.length = f.filled ∧
      (∀ other, Choice cs s (classes p.tokens) other → other.length ≤ f.filled ∧
        ∀ (j i : Nat), other[j]? = some i → ∃ b, best[j]? = some b ∧ b ≤ i) ∧
      f.value = if f.filled = 0 then [] else
        spread p.tokens (best.filterMap (s[·]?)) ++
          if best.getLastD 0 + 1 < s.length then runAfter p.tokens (best.filterMap (s[·]?))
          else [] := by
  intro p s f
  have hs : p.strip raw = s := Pattern.strip_compile d raw
  have hfilled : f.filled = (leftmost cs s 0 (classes p.tokens)).length := by
    rw [← length_chosen hs, show f = _ from p.format_eq cs raw]
  have hvalue : f.value = display p.tokens (p.chosen cs raw) (p.hasMore cs raw) := by
    rw [show f = _ from p.format_eq cs raw]
  refine ⟨leftmost cs s 0 (classes p.tokens), (choiceFrom_leftmost 0 _).choice, hfilled.symm,
    fun other hother => ?_, ?_⟩
  · have hother := hother.choiceFrom (fun i _ => Nat.zero_le i)
    rw [hfilled]
    exact ⟨length_le_leftmost hother, fun j i hi => exists_le_leftmost hother hi⟩
  · rw [hvalue, hfilled, ← length_chosen hs, ← chosen_eq_leftmost hs, display]
    by_cases hempty : p.chosen cs raw = []
    · rw [if_pos hempty, hempty, List.length_nil, if_pos rfl]
    · have hne : leftmost cs s 0 (classes p.tokens) ≠ [] := by
        intro h
        rw [chosen_eq_leftmost hs, h] at hempty
        exact hempty rfl
      rw [if_neg hempty, if_neg (mt List.eq_nil_of_length_eq_zero hempty)]
      simp only [hasMore_iff hs hne]

end MaskedInput
