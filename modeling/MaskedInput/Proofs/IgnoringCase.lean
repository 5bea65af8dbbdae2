import MaskedInput.Proofs.Completeness
import MaskedInput.Proofs.Extension
import MaskedInput.Proofs.Matching

/-! Matching that ignores case. Folding never brings a character from outside Latin-1 into it
(`fold_beyond_latin`), so a class of digits or letters only takes characters of Latin-1, and what it
takes is seen there (`accepts_ignoring_case`). A class takes no less than when case counts, so a
choice of characters stays one; the leftmost choice then goes at least as far and is nowhere later,
which leaves no less of the input behind it (`format_ignoring_case`). -/

namespace MaskedInput

open Formatted

/-! ### Characters -/

namespace Letter

variable {c : Char}

/-- The ranges of the letter classes. They hold the letters of ASCII and accented letters of
Latin-1, with the signs for multiplication and division. -/
def InRanges (c : Char) : Prop :=
  ('a' ≤ c ∧ c ≤ 'z') ∨ ('A' ≤ c ∧ c ≤ 'Z') ∨
    ('\u00C0' ≤ c ∧ c ≤ '\u00DC') ∨ ('\u00E0' ≤ c ∧ c ≤ '\u00FC')

instance (c : Char) : Decidable (InRanges c) :=
  inferInstanceAs (Decidable (_ ∨ _ ∨ _ ∨ _))

theorem InRanges.toNat_lt (h : InRanges c) : c.toNat < 0x100 := by
  rcases h with ⟨-, h⟩ | ⟨-, h⟩ | ⟨-, h⟩ | ⟨-, h⟩ <;> exact Nat.lt_of_le_of_lt h (by decide)

/-- The runs of uppercase forms from outside Latin-1 lead to ASCII or stay outside. -/
theorem image_of_run_beyond_latin : ∀ r ∈ CaseTables.toUpper, 0x100 ≤ r.last →
    r.image r.last < 0x80 ∨ 0x100 ≤ r.target ∧ r.image r.last < 0xD800 ∨
      0xE000 ≤ r.target ∧ r.image r.last < 0x110000 := by
  decide +kernel

theorem upper_beyond_latin {u : Char} (hc : 0x100 ≤ c.toNat) (hu : upper? c = some u) :
    isAscii u = true ∨ 0x100 ≤ u.toNat := by
  rw [upper?] at hu
  split_ifs at hu with hlong
  cases hmove : ShiftRun.move CaseTables.toUpper c.toNat with
  | none =>
      rw [hmove] at hu
      cases hu
      exact .inr hc
  | some m =>
      rw [hmove] at hu
      cases hu
      obtain ⟨r, hr, ⟨hfirst, hlast, -⟩, rfl⟩ := ShiftRun.exists_of_move hmove
      have hrun := image_of_run_beyond_latin r hr (Nat.le_trans hc hlast)
      have hvalid : (r.image c.toNat).isValidChar := by
        simp only [ShiftRun.image, Nat.isValidChar] at hrun ⊢
        omega
      have htoNat : (Char.ofNat (r.image c.toNat)).toNat = r.image c.toNat := by
        rw [Char.ofNat, dif_pos hvalid]
        rfl
      rw [isAscii, Option.map_some, Option.getD_some, htoNat, decide_eq_true_iff]
      simp only [ShiftRun.image] at hrun ⊢
      omega

/-- Folding leads from outside Latin-1 to outside Latin-1: a form in ASCII does not count. -/
theorem fold_beyond_latin (hc : 0x100 ≤ c.toNat) : 0x100 ≤ (fold c).toNat := by
  have hascii : isAscii c = false := by
    rw [isAscii, decide_eq_false_iff_not]
    omega
  rw [fold]
  cases hu : upper? c with
  | none => exact hc
  | some u =>
      dsimp only
      split_ifs with hkeep
      · rw [hascii, Bool.false_or, Bool.not_eq_true'] at hkeep
        exact (upper_beyond_latin hc hu).resolve_left (by rw [hkeep]; exact Bool.false_ne_true)
      · exact hc

end Letter

namespace CharClass

variable {k : CharClass} {c : Char}

theorem accepts_ignoring_iff : k.accepts false c = true ↔ k.contains c = true ∨
    (Letter.fold c ≠ c ∧ k.contains (Letter.fold c) = true) ∨
    ∃ l, Letter.lower? (Letter.fold c) = some l ∧ l ≠ c ∧ Letter.fold l = Letter.fold c ∧
      k.contains l = true := by
  rw [accepts, Bool.or_eq_true, Bool.not_false, Bool.true_and, Bool.or_eq_true, accepts.viaUpper,
    accepts.viaLower, accepts.folded]
  cases Letter.lower? (Letter.fold c) with
  | none => simp
  | some l => simp [and_assoc]

theorem toNat_lt_of_contains (hk : k ≠ .any) (h : k.contains c = true) : c.toNat < 0x100 := by
  have hmax (d : Char) (hd : d.toNat < 0x100) (hc : c ≤ d) : c.toNat < 0x100 :=
    Nat.lt_of_le_of_lt hc hd
  cases k with
  | digit =>
      simp only [contains, Bool.and_eq_true, decide_eq_true_iff] at h
      exact hmax '9' (by decide) h.2
  | lower =>
      simp only [contains, Bool.or_eq_true, Bool.and_eq_true, decide_eq_true_iff] at h
      rcases h with ⟨-, h⟩ | ⟨-, h⟩
      · exact hmax 'z' (by decide) h
      · exact hmax '\u00FC' (by decide) h
  | upper =>
      simp only [contains, Bool.or_eq_true, Bool.and_eq_true, decide_eq_true_iff] at h
      rcases h with ⟨-, h⟩ | ⟨-, h⟩
      · exact hmax 'Z' (by decide) h
      · exact hmax '\u00DC' (by decide) h
  | any => exact absurd rfl hk

/-- The members of a class of digits or letters are folded inside Latin-1. -/
theorem toNat_fold_lt (hk : k ≠ .any) (h : k.contains c = true) :
    (Letter.fold c).toNat < 0x100 := by
  have hmem : k ∈ [digit, lower, upper] := by
    cases k with
    | any => exact absurd rfl hk
    | _ => decide
  have hall : ∀ n < 0x100, ∀ k ∈ [digit, lower, upper], k.contains (Char.ofNat n) = true →
      (Letter.fold (Char.ofNat n)).toNat < 0x100 := by
    decide +kernel
  have hc := hall c.toNat (toNat_lt_of_contains hk h)
  rw [Char.ofNat_toNat] at hc
  exact hc k hmem h

/-- Ignoring case, a class of digits or letters takes nothing from outside Latin-1. -/
theorem toNat_lt_of_accepts {cs : Bool} (hk : k ≠ .any) (h : k.accepts cs c = true) :
    c.toNat < 0x100 := by
  refine Nat.lt_of_not_le fun hc => ?_
  have hfold := Letter.fold_beyond_latin hc
  have hfalse : k.accepts false c = true := by
    cases cs with
    | false => exact h
    | true => exact accepts_mono h
  rcases accepts_ignoring_iff.1 hfalse with hown | ⟨-, hupper⟩ | ⟨l, -, -, hl, hlower⟩
  · exact Nat.not_le.2 (toNat_lt_of_contains hk hown) hc
  · exact Nat.not_le.2 (toNat_lt_of_contains hk hupper) hfold
  · exact Nat.not_le.2 (toNat_fold_lt hk hlower) (hl ▸ hfold)

/-- What a class of digits or letters takes is known from the characters of Latin-1. -/
theorem accepts_iff_of_latin {P : Char → Prop} (hk : k ≠ .any) (hP : ∀ c, P c → c.toNat < 0x100)
    (h : ∀ n < 0x100, k.accepts false (Char.ofNat n) = true ↔ P (Char.ofNat n)) (c : Char) :
    k.accepts false c = true ↔ P c := by
  have hc (hlt : c.toNat < 0x100) : k.accepts false c = true ↔ P c := by
    have hn := h c.toNat hlt
    rwa [Char.ofNat_toNat] at hn
  exact ⟨fun ha => (hc (toNat_lt_of_accepts hk ha)).1 ha, fun hp => (hc (hP c hp)).2 hp⟩

theorem accepts_digit_iff (c : Char) :
    digit.accepts false c = true ↔ digit.contains c = true :=
  accepts_iff_of_latin (P := (digit.contains · = true)) (by decide)
    (fun _ h => toNat_lt_of_contains (by decide) h) (by decide +kernel) c

theorem accepts_lower_iff (c : Char) :
    lower.accepts false c = true ↔ Letter.InRanges c ∧ c ≠ '\u00D7' :=
  accepts_iff_of_latin (P := fun c => Letter.InRanges c ∧ c ≠ '\u00D7') (by decide)
    (fun _ h => h.1.toNat_lt) (by decide +kernel) c

theorem accepts_upper_iff (c : Char) :
    upper.accepts false c = true ↔ Letter.InRanges c ∧ c ≠ '\u00F7' :=
  accepts_iff_of_latin (P := fun c => Letter.InRanges c ∧ c ≠ '\u00F7') (by decide)
    (fun _ h => h.1.toNat_lt) (by decide +kernel) c

/-- The line breaks have no other case, and `any` takes everything else. -/
theorem accepts_any_iff (c : Char) : any.accepts false c = true ↔ any.contains c = true := by
  refine ⟨fun h => ?_, accepts_of_contains false⟩
  by_cases hbreak : c = '\n' ∨ c = '\r' ∨ c = '\u2028' ∨ c = '\u2029'
  · rcases hbreak with rfl | rfl | rfl | rfl <;> exact absurd h (by decide +kernel)
  · simpa [contains, and_assoc] using hbreak

/-- **Ignoring case only lets in letters of Latin-1 with their other case.** Digits and `any` take
what they take when case counts. The letter classes take the letters of both cases; they differ in
the two signs among these, which have no other case. -/
theorem accepts_ignoring_case (c : Char) :
    digit.accepts false c = digit.accepts true c ∧ any.accepts false c = any.accepts true c ∧
    (lower.accepts false c = true ↔ Letter.InRanges c ∧ c ≠ '\u00D7') ∧
    (upper.accepts false c = true ↔ Letter.InRanges c ∧ c ≠ '\u00F7') ∧
    (∀ k : CharClass, k.accepts false c = true → k.accepts true c = true ∨ Letter.InRanges c) ∧
    (lower.accepts false c ≠ upper.accepts false c ↔ c = '\u00D7' ∨ c = '\u00F7') := by
  have hdigit : digit.accepts false c = digit.accepts true c := by
    rw [Bool.eq_iff_iff, accepts_digit_iff, accepts_sensitive]
  have hany : any.accepts false c = any.accepts true c := by
    rw [Bool.eq_iff_iff, accepts_any_iff, accepts_sensitive]
  refine ⟨hdigit, hany, accepts_lower_iff c, accepts_upper_iff c, fun k hk => ?_, ?_⟩
  · cases k with
    | digit => exact .inl (hdigit ▸ hk)
    | lower => exact .inr ((accepts_lower_iff c).1 hk).1
    | upper => exact .inr ((accepts_upper_iff c).1 hk).1
    | any => exact .inl (hany ▸ hk)
  · rw [Ne, Bool.eq_iff_iff, accepts_lower_iff, accepts_upper_iff]
    constructor
    · refine fun hdiffer => Decidable.of_not_not fun hsign => ?_
      obtain ⟨hlower, hupper⟩ := not_or.1 hsign
      exact hdiffer (and_congr_right fun _ => iff_of_true hlower hupper)
    · rintro (rfl | rfl)
      · decide
      · decide

/-- The Kelvin and Angstrom signs, the long s, the dotless i and the dotted one, the micro sign and
the sharp s in both cases are in no range, so no letter class takes them. -/
example :
    ['\u212A', '\u212B', '\u017F', '\u0131', '\u0130', '\u00B5', '\u00DF', '\u1E9E'].all
      (fun c => !lower.accepts false c && !upper.accepts false c) = true := by
  decide +kernel

end CharClass

/-! ### Layouts -/

section Layouts

variable {s : Text} {ks : List CharClass} {w w' : Text}

theorem Choice.ignoring_case {positions : List Nat} (h : Choice true s ks positions) :
    Choice false s ks positions := by
  refine ⟨h.increasing, h.length_le, fun j i k hi hk => ?_⟩
  obtain ⟨c, hc, haccepts⟩ := h.accepted j i k hi hk
  exact ⟨c, hc, CharClass.accepts_mono haccepts⟩

/-- Ignoring case, the leftmost choice goes at least as far as when case counts. -/
theorem choiceFrom_ignoring_case (s : Text) (ks : List CharClass) :
    ChoiceFrom false s 0 ks (leftmost true s 0 ks) :=
  (choiceFrom_leftmost 0 ks).choice.ignoring_case.choiceFrom fun i _ => Nat.zero_le i

/-- How far the tokens are written out depends on the number of characters. -/
theorem length_spread_congr (tokens : List Token) (h : w.length = w'.length) :
    (spread tokens w).length = (spread tokens w').length := by
  induction tokens generalizing w w' with
  | nil => cases w <;> cases w' <;> rfl
  | cons t tokens ih =>
      cases w with
      | nil => rw [List.eq_nil_of_length_eq_zero h.symm]
      | cons c w =>
          cases w' with
          | nil => cases h
          | cons c' w' =>
              cases t with
              | separator l =>
                  rw [spread_separator, spread_separator, List.length_cons, ih h]
                  rfl
              | placeholder k =>
                  rw [spread_placeholder, spread_placeholder, List.length_cons, ih (Nat.succ.inj h)]
                  rfl

theorem length_display_congr (tokens : List Token) (h : w.length = w'.length) (more : Bool) :
    (display tokens w more).length = (display tokens w' more).length := by
  have hspread := length_spread_congr tokens h
  have hempty : w = [] ↔ w' = [] := by
    rw [← List.length_eq_zero_iff, ← List.length_eq_zero_iff, h]
  rw [display, display, runAfter, runAfter, hspread]
  simp only [hempty]
  split_ifs
  · rfl
  · rw [List.length_append, List.length_append, hspread]
  · rw [List.length_append, List.length_append, hspread]

/-- A layout of more characters is no shorter, and neither is one of as many that shows the
separators at its end if the other does. -/
theorem length_display_mono (tokens : List Token) {more more' : Bool} (hle : w.length ≤ w'.length)
    (hmore : w ≠ [] → w.length = w'.length → more = true → more' = true) :
    (display tokens w more).length ≤ (display tokens w' more').length := by
  by_cases hempty : w = []
  · rw [display, if_pos hempty]
    exact Nat.zero_le _
  have hlen : (w ++ w'.drop w.length).length = w'.length := by
    rw [List.length_append, List.length_drop]
    omega
  rw [← length_display_congr tokens hlen more']
  refine (display_extends List.prefix_rfl (List.prefix_append _ _) fun hsame => ?_).length_le
  rw [hsame] at hlen
  exact hmore hempty hlen

end Layouts

namespace Pattern

variable {p : Pattern} {raw : Text}

theorem Admits.ignoring_case {t : Token} {c : Char} (h : p.Admits true t c) :
    p.Admits false t c := by
  cases t with
  | separator l => exact h
  | placeholder k => exact ⟨CharClass.accepts_mono h.1, h.2⟩

theorem length_chosen_ignoring_case (p : Pattern) (raw : Text) :
    (p.chosen true raw).length ≤ (p.chosen false raw).length := by
  rw [length_chosen rfl, length_chosen rfl]
  exact length_le_leftmost (choiceFrom_ignoring_case _ _)

/-- Where as many characters are taken, the last of them stands no later, and no less is left. -/
theorem hasMore_ignoring_case (hne : p.chosen true raw ≠ [])
    (hlen : (p.chosen true raw).length = (p.chosen false raw).length)
    (hmore : p.hasMore true raw = true) : p.hasMore false raw = true := by
  rw [length_chosen rfl, length_chosen rfl] at hlen
  have hpos : 0 < (leftmost true (p.strip raw) 0 (classes p.tokens)).length := by
    rw [← length_chosen rfl]
    exact List.length_pos_iff.2 hne
  have hpos' := hlen ▸ hpos
  rw [hasMore_iff rfl (List.length_pos_iff.1 hpos)] at hmore
  rw [hasMore_iff rfl (List.length_pos_iff.1 hpos')]
  have hlast := List.getElem?_eq_getElem (Nat.sub_lt hpos Nat.one_pos)
  obtain ⟨b, hb, hle⟩ := exists_le_leftmost (choiceFrom_ignoring_case _ _) hlast
  rw [List.getLastD_eq_getLast?, List.getLast?_eq_getElem?] at hmore ⊢
  rw [hlast, Option.getD_some] at hmore
  rw [← hlen, hb, Option.getD_some]
  omega

/-- **Ignoring case loses nothing.** Whatever the mask and the text, it fills at least as many
placeholders as when case counts, though maybe with other characters, and the value has at least as
many characters. Every value that is complete when case counts is complete when it is ignored. -/
theorem format_ignoring_case (d raw : Text) :
    let p := compile d
    (p.format true raw).filled ≤ (p.format false raw).filled ∧
    (p.format true raw).value.length ≤ (p.format false raw).value.length ∧
    ∀ v, (Mask.compile d).isComplete ⟨true⟩ v = true →
      (Mask.compile d).isComplete ⟨false⟩ v = true := by
  intro p
  have hlen := length_chosen_ignoring_case p raw
  refine ⟨?_, ?_, fun v hv => ?_⟩
  · rw [format_eq, format_eq]
    exact hlen
  · rw [format_eq, format_eq]
    exact length_display_mono p.tokens hlen hasMore_ignoring_case
  · obtain ⟨hreach, hfits⟩ := (Mask.isComplete_iff_fits d v ⟨true⟩).1 hv
    exact (Mask.isComplete_iff_fits d v ⟨false⟩).2
      ⟨hreach, hfits.mono fun _ _ h => h.ignoring_case⟩

/-- The first capital letter is the second letter of the text: when case counts it fills the first
placeholder and leaves none for the second, otherwise the letter before it comes first. -/
theorem format_ignoring_case_drifts :
    let p := compile "AA-9".toList
    (p.format true "aBc1".toList) = ⟨"B".toList, 1⟩ ∧
    (p.format false "aBc1".toList) = ⟨"aB-1".toList, 3⟩ ∧
    (p.format true "aBc1".toList).value.length ≤ (p.format false "aBc1".toList).value.length ∧
    (Mask.compile "AA-9".toList).isComplete ⟨true⟩ "AB-1".toList = true ∧
    (Mask.compile "AA-9".toList).isComplete ⟨false⟩ "AB-1".toList = true := by
  intro p
  obtain ⟨-, hlength, hcomplete⟩ := format_ignoring_case "AA-9".toList "aBc1".toList
  have hexact : (Mask.compile "AA-9".toList).isComplete ⟨true⟩ "AB-1".toList = true := by
    decide +kernel
  exact ⟨by decide +kernel, by decide +kernel, hlength, hexact, hcomplete _ hexact⟩

end Pattern

end MaskedInput
