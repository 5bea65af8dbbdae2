import MaskedInput.Mask.Pattern
import Mathlib.Tactic.SplitIfs

/-! Stripping goes by a class that is written out and read back. Reading undoes the escapes of
writing, so the class holds exactly the characters of the alphabet (`exists_parse?_written`), and a
compiled pattern strips exactly its literals (`strip_compile`). -/

namespace MaskedInput

namespace BracketClass

theorem literal?_escape (c : Char) (more : List Char) :
    literal? (escape c ++ more) = some (c, more) := by
  rw [escape]
  split_ifs with hc
  · rw [List.cons_append, List.cons_append, List.nil_append, literal?, if_pos hc]
  · have hslash : c ≠ '\\' := by
      intro h
      exact hc (h ▸ by decide)
    rw [List.cons_append, List.nil_append, literal?]
    exact fun h => hslash h

theorem range?_escape (c : Char) {more : List Char} (hmore : ∀ rest, more ≠ '-' :: rest) :
    range? (escape c ++ more) = some (single c, more) := by
  simp only [range?, literal?_escape]
  split
  · exact absurd rfl (hmore _)
  · rfl

/-- An escaped character starts with none of the signs that have a meaning inside a class. -/
theorem escape_eq_cons (c : Char) :
    ∃ d rest, escape c = d :: rest ∧ d ≠ ']' ∧ d ≠ '[' ∧ d ≠ '^' ∧ d ≠ '-' ∧ d ≠ '&' ∧ d ≠ '~' := by
  rw [escape]
  split_ifs with hc
  · exact ⟨'\\', [c], rfl, by decide⟩
  · refine ⟨c, [], rfl, ?_, ?_, ?_, ?_, ?_, ?_⟩ <;> (rintro rfl; exact hc (by decide))

theorem ofSigns?_eq_none {d : Char} (s : List Char) (hminus : d ≠ '-') (hand : d ≠ '&')
    (htilde : d ≠ '~') : SetOperator.ofSigns? (d :: s) = none := by
  unfold SetOperator.ofSigns?
  split <;> simp_all

theorem escapes_ne_minus (a : Alphabet) (rest : List Char) :
    a.flatMap escape ++ [']'] ≠ '-' :: rest := by
  cases a with
  | nil => simp
  | cons c a =>
      obtain ⟨d, tail, hd, -, -, -, hminus, -⟩ := escape_eq_cons c
      rw [List.flatMap_cons, hd]
      intro h
      exact hminus (List.cons.inj h).1

/-- An escaped literal inside a class becomes one of its items. -/
theorem rest?_escape (level : Level) (c : Char) {more : List Char}
    (hmore : ∀ rest, more ≠ '-' :: rest) :
    rest? [] level (escape c ++ more) = rest? [] (level.add (single c)) more := by
  have hrange := range?_escape c hmore
  obtain ⟨d, tail, hd, hclose, hopen, -, hminus, hand, htilde⟩ := escape_eq_cons c
  rw [hd, List.cons_append] at hrange ⊢
  rw [rest?, if_neg hclose, if_neg hopen, ofSigns?_eq_none _ hminus hand htilde]
  dsimp only
  split
  · rename_i item tail' h
    rw [hrange] at h
    cases h
    rfl
  · rename_i h
    rw [hrange] at h
    cases h

/-- The items of a class that lists some characters. -/
def Level.listing (level : Level) (a : Alphabet) : Level :=
  a.foldl (fun l c => l.add (single c)) level

theorem rest?_escapes (a : Alphabet) (level : Level) :
    rest? [] level (a.flatMap escape ++ [']']) = some ((level.listing a).close, []) := by
  induction a generalizing level with
  | nil =>
      rw [List.flatMap_nil, List.nil_append, rest?, if_pos rfl]
      rfl
  | cons c a ih =>
      rw [List.flatMap_cons, List.append_assoc, rest?_escape level c (escapes_ne_minus a), ih]
      rfl

theorem opening_escapes {a : Alphabet} (ha : a ≠ []) :
    Level.opening (a.flatMap escape ++ [']']) =
      (⟨false, none, .empty⟩, a.flatMap escape ++ [']']) := by
  obtain ⟨c, b, rfl⟩ := List.exists_cons_of_ne_nil ha
  obtain ⟨d, tail, hd, hclose, -, hcaret, hminus, -⟩ := escape_eq_cons c
  rw [List.flatMap_cons, hd, List.cons_append, List.cons_append, Level.opening]
  · rw [Level.opening.leading]
    · exact fun _ h => hclose (List.cons.inj h).1
    · exact fun _ h => hminus (List.cons.inj h).1
  · exact fun _ h => hcaret (List.cons.inj h).1

theorem contains_items_listing (a : Alphabet) (level : Level) (c : Char) :
    (level.listing a).items.contains c = true ↔ level.items.contains c = true ∨ c ∈ a := by
  induction a generalizing level with
  | nil => simp [Level.listing]
  | cons d a ih =>
      have hsingle : (single d).contains c = true ↔ c = d := by
        simp only [single, contains, Bool.and_eq_true, decide_eq_true_eq]
        exact ⟨fun h => Char.le_antisymm h.2 h.1, fun h => ⟨h ▸ Char.le_refl _, h ▸ Char.le_refl _⟩⟩
      rw [Level.listing, List.foldl_cons, ← Level.listing, ih]
      simp only [Level.add, contains, Bool.or_eq_true, hsingle, List.mem_cons, or_assoc]

theorem listing_eq (a : Alphabet) (level : Level) :
    level.listing a = { level with items := (level.listing a).items } := by
  induction a generalizing level with
  | nil => rfl
  | cons d a ih => exact ih (level.add (single d))

/-- The written form of an alphabet reads back as a class of exactly its characters. -/
theorem exists_parse?_written {a : Alphabet} (ha : a ≠ []) :
    ∃ b, parse? (written a) = some b ∧ ∀ c, b.contains c = true ↔ c ∈ a := by
  refine ⟨((⟨false, none, .empty⟩ : Level).listing a).close, ?_, fun c => ?_⟩
  · rw [written, parse?, opening_escapes ha]
    dsimp only
    rw [rest?_escapes]
  · rw [listing_eq]
    exact (contains_items_listing a _ c).trans (by simp [contains])

end BracketClass

namespace Pattern

theorem matcherOf_of_ne_nil {a : Alphabet} (ha : a ≠ []) :
    matcherOf a = BracketClass.parse? (BracketClass.written a) := by
  rw [matcherOf, if_neg (by simpa using ha)]

/-- The parts of a pattern belong together: the alphabet holds the literals of the tokens, and the
matcher, if there is one, takes the characters of the alphabet. -/
structure Tied (p : Pattern) : Prop where
  mem_separators_iff : ∀ c, c ∈ p.separators ↔ .separator c ∈ p.tokens
  contains_iff : ∀ b, p.matcher = some b → ∀ c, b.contains c = true ↔ c ∈ p.separators

theorem tied_compile (d : Text) : (compile d).Tied where
  mem_separators_iff _ := mem_separators_compile
  contains_iff b hb := by
    have hmatcher : matcherOf (compile d).separators = some b := hb
    have hne : (compile d).separators ≠ [] := by
      intro hnil
      rw [hnil] at hmatcher
      cases hmatcher
    obtain ⟨b', hread, hcontains⟩ := BracketClass.exists_parse?_written hne
    rw [matcherOf_of_ne_nil hne, hread] at hmatcher
    cases hmatcher
    exact hcontains

/-- A matcher that was refused leaves the parts tied. -/
theorem Tied.without_matcher {p : Pattern} (h : p.Tied) :
    ({ p with matcher := none } : Pattern).Tied :=
  ⟨h.mem_separators_iff, fun _ hb => nomatch hb⟩

theorem Tied.strip_eq {p : Pattern} (h : p.Tied) (raw : Text) :
    p.strip raw = raw.filter (· ∉ p.separators) := by
  rw [strip]
  cases hm : p.matcher with
  | none => simp
  | some b =>
      refine List.filter_congr fun c _ => ?_
      rw [Bool.eq_iff_iff]
      simp [← h.contains_iff b hm c]

/-- Whichever way a compiled pattern strips, exactly the characters of its alphabet go. -/
theorem strip_compile (d raw : Text) :
    (compile d).strip raw = raw.filter (· ∉ (compile d).separators) :=
  (tied_compile d).strip_eq raw

/-- **Stripping agrees with filtering.** Every set of characters but the empty one has its class as
the matcher; the class as it is written can be read and holds exactly the set. For the empty set
there is no matcher. So a compiled pattern strips the characters of its alphabet and keeps all
others as they stand, by the matcher as well as without it. -/
theorem strip_either_way (d raw : Text) :
    (∀ a : Alphabet, a ≠ [] → ∃ b, BracketClass.parse? (BracketClass.written a) = some b ∧
      matcherOf a = some b ∧ ∀ c, b.contains c = true ↔ c ∈ a) ∧
    matcherOf [] = none ∧
    ∀ m, m = matcherOf (compile d).separators ∨ m = none →
      ({ compile d with matcher := m } : Pattern).strip raw =
        raw.filter (· ∉ (compile d).separators) := by
  refine ⟨fun a ha => ?_, rfl, ?_⟩
  · obtain ⟨b, hread, hcontains⟩ := BracketClass.exists_parse?_written ha
    exact ⟨b, hread, (matcherOf_of_ne_nil ha).trans hread, hcontains⟩
  · rintro m (rfl | rfl)
    · exact (tied_compile d).strip_eq raw
    · exact (tied_compile d).without_matcher.strip_eq raw

/-- Separators that all mean something in a class, a range and an operator among them. -/
theorem strip_either_way_signs :
    let d := "9]^9--9a-z&&~~[\\9".toList
    let m := compile d
    let raw := "1]2^3-4a-5z&6~7[8\\9x".toList
    m.separators = "&-[\\]^z~".toList ∧ m.separators ≠ [] ∧ m.matcher ≠ none ∧
    (∃ b, BracketClass.parse? (BracketClass.written m.separators) = some b ∧
      matcherOf m.separators = some b ∧ ∀ c, b.contains c = true ↔ c ∈ m.separators) ∧
    m.strip raw = raw.filter (· ∉ m.separators) ∧
    ({ m with matcher := none } : Pattern).strip raw = raw.filter (· ∉ m.separators) ∧
    m.strip raw = "1234a56789x".toList := by
  intro d m raw
  obtain ⟨hreads, -, hstrips⟩ := strip_either_way d raw
  have hseparators : m.separators = "&-[\\]^z~".toList := by decide +kernel
  have hne : m.separators ≠ [] := by
    rw [hseparators]
    decide
  exact ⟨hseparators, hne, by decide +kernel, hreads _ hne, hstrips _ (.inl rfl),
    hstrips _ (.inr rfl), by decide +kernel⟩

end Pattern
end MaskedInput
