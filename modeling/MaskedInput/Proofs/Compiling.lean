import MaskedInput.Mask.Basic
import MaskedInput.Proofs.Stripping

/-! What a compiled pattern says about its definition. The tokens spell the definition, so equal
patterns come from equal definitions (`beq_compile_iff`). Equality compares the tokens only; that it
is sound for all the rest rests on the parts being tied: what is stripped, laid out and complete
depends on the tokens alone (`Tied.strip_congr`, `Tied.format_congr`, `Tied.isComplete_congr`). -/

namespace MaskedInput

namespace Alphabet

theorem ascending_insert {a : Alphabet} (h : a.Pairwise (· < ·)) (c : Char) :
    (insert c a).Pairwise (· < ·) := by
  induction a with
  | nil => exact List.pairwise_singleton _ c
  | cons d rest ih =>
      obtain ⟨hd, hrest⟩ := List.pairwise_cons.1 h
      rw [insert]
      split_ifs with hlt heq
      · refine List.pairwise_cons.2 ⟨fun x hx => ?_, h⟩
        rcases List.mem_cons.1 hx with rfl | hx
        · exact hlt
        · exact Char.lt_trans hlt (hd x hx)
      · exact h
      · refine List.pairwise_cons.2 ⟨fun x hx => ?_, ih hrest⟩
        rcases mem_insert.1 hx with rfl | hx
        · have hle : d ≤ x := Char.not_lt.1 hlt
          exact Char.not_le.1 fun hge => heq (Char.le_antisymm hge hle)
        · exact hd x hx

/-- However the characters come in, each is listed once and in its place. -/
theorem ascending_ofList (cs : List Char) : (ofList cs).Pairwise (· < ·) := by
  induction cs with
  | nil => exact .nil
  | cons c cs ih => exact ascending_insert ih c

end Alphabet

/-! ### Symbols -/

/-- The characters of a definition that stand for placeholders. -/
def placeholderSymbols : List Char := ['9', 'a', 'A', '*']

theorem CharClass.mem_placeholderSymbols_iff {c : Char} :
    c ∈ placeholderSymbols ↔ ∃ k : CharClass, c = k.symbol := by
  constructor
  · intro h
    simp only [placeholderSymbols, List.mem_cons, List.not_mem_nil, or_false] at h
    rcases h with rfl | rfl | rfl | rfl
    · exact ⟨.digit, rfl⟩
    · exact ⟨.lower, rfl⟩
    · exact ⟨.upper, rfl⟩
    · exact ⟨.any, rfl⟩
  · rintro ⟨k, rfl⟩
    cases k <;> decide

namespace Token

theorem ofChar_eq_placeholder_iff {c : Char} {k : CharClass} :
    ofChar c = .placeholder k ↔ c = k.symbol := by
  constructor
  · intro h
    rw [← toChar_ofChar c, h]
    rfl
  · rintro rfl
    rw [ofChar, CharClass.ofSymbol?_symbol]

theorem ofChar_eq_separator_iff {c l : Char} :
    ofChar c = .separator l ↔ c = l ∧ c ∉ placeholderSymbols := by
  constructor
  · intro h
    have hc : c = l := by
      rw [← toChar_ofChar c, h]
      rfl
    refine ⟨hc, fun hsymbol => ?_⟩
    obtain ⟨k, hk⟩ := CharClass.mem_placeholderSymbols_iff.1 hsymbol
    cases (ofChar_eq_placeholder_iff.2 hk).symm.trans h
  · rintro ⟨rfl, hsymbol⟩
    cases h : ofChar c with
    | separator l =>
        rw [← toChar_ofChar c, h]
        rfl
    | placeholder k =>
        exact absurd (CharClass.mem_placeholderSymbols_iff.2 ⟨k, ofChar_eq_placeholder_iff.1 h⟩)
          hsymbol

end Token

namespace Pattern

/-! ### Tokens and definition -/

/-- The definition is written out by the tokens. -/
theorem map_toChar_tokens (d : Text) : (compile d).tokens.map Token.toChar = d := by
  rw [tokens_compile, List.map_map]
  exact (List.map_congr_left fun c _ => Token.toChar_ofChar c).trans (List.map_id d)

theorem tokens_getElem?_eq_some_iff {d : Text} {i : Nat} {t : Token} :
    (compile d).tokens[i]? = some t ↔ ∃ c, d[i]? = some c ∧ Token.ofChar c = t := by
  rw [tokens_compile, List.getElem?_map, Option.map_eq_some_iff]

theorem tokens_getElem?_eq_separator_iff {d : Text} {i : Nat} {l : Char} :
    (compile d).tokens[i]? = some (.separator l) ↔ d[i]? = some l ∧ l ∉ placeholderSymbols := by
  rw [tokens_getElem?_eq_some_iff]
  simp only [Token.ofChar_eq_separator_iff]
  constructor
  · rintro ⟨c, hc, rfl, hsymbol⟩
    exact ⟨hc, hsymbol⟩
  · rintro ⟨hl, hsymbol⟩
    exact ⟨l, hl, rfl, hsymbol⟩

theorem tokens_getElem?_eq_placeholder_iff {d : Text} {i : Nat} {k : CharClass} :
    (compile d).tokens[i]? = some (.placeholder k) ↔ d[i]? = some k.symbol := by
  rw [tokens_getElem?_eq_some_iff]
  simp only [Token.ofChar_eq_placeholder_iff, exists_eq_right]

theorem mem_separators_compile_iff {d : Text} {c : Char} :
    c ∈ (compile d).separators ↔ c ∈ d ∧ c ∉ placeholderSymbols := by
  rw [mem_separators_compile, tokens_compile, List.mem_map]
  constructor
  · rintro ⟨x, hx, hc⟩
    obtain ⟨rfl, hsymbol⟩ := Token.ofChar_eq_separator_iff.1 hc
    exact ⟨hx, hsymbol⟩
  · rintro ⟨hc, hsymbol⟩
    exact ⟨c, hc, Token.ofChar_eq_separator_iff.2 ⟨rfl, hsymbol⟩⟩

theorem beq_iff {p q : Pattern} : (p == q) = true ↔ p.tokens = q.tokens :=
  beq_iff_eq (a := p.tokens) (b := q.tokens)

theorem beq_compile_iff {a b : Text} : (compile a == compile b) = true ↔ a = b := by
  rw [beq_iff]
  refine ⟨fun h => ?_, fun h => by rw [h]⟩
  rw [← map_toChar_tokens a, h, map_toChar_tokens]

/-! ### Patterns with the same tokens -/

section Congruence

variable {p q : Pattern} (hp : p.Tied) (hq : q.Tied) (h : p.tokens = q.tokens)
include hp hq h

theorem Tied.mem_separators_congr (c : Char) : c ∈ p.separators ↔ c ∈ q.separators := by
  rw [hp.mem_separators_iff, hq.mem_separators_iff, h]

theorem Tied.strip_congr (raw : Text) : p.strip raw = q.strip raw := by
  rw [hp.strip_eq, hq.strip_eq]
  refine List.filter_congr fun c _ => ?_
  rw [decide_eq_decide, hp.mem_separators_congr hq h c]

theorem Tied.format_congr (cs : Bool) (raw : Text) : p.format cs raw = q.format cs raw := by
  rw [format, format, h, hp.strip_congr hq h]

theorem Tied.isComplete_congr (a b : Text) (o : MaskOptions) (value : Text) :
    (⟨a, p⟩ : Mask).isComplete o value = (⟨b, q⟩ : Mask).isComplete o value := by
  have hcount : p.placeholderCount = q.placeholderCount := by
    rw [placeholderCount, placeholderCount, h]
  rw [Mask.isComplete, Mask.isComplete]
  dsimp only
  rw [hp.format_congr hq h, hcount]

end Congruence

end Pattern

theorem Mask.beq_compile_iff {a b : Text} : (compile a == compile b) = true ↔ a = b := by
  constructor
  · intro h
    have hboth : (a == b && Pattern.compile a == Pattern.compile b) = true := h
    exact eq_of_beq (Bool.and_eq_true_iff.1 hboth).1
  · rintro rfl
    have hboth : (a == a && Pattern.compile a == Pattern.compile a) = true :=
      Bool.and_eq_true_iff.2 ⟨beq_self_eq_true a, Pattern.beq_compile_iff.2 rfl⟩
    exact hboth

namespace Pattern

/-- **Compilation is faithful and equality is sound.** Patterns, and masks, are equal exactly for
equal definitions. A pattern has one token for each character of its definition, in order, and gives
the definition back; its alphabet is the set of the literals, which are the characters other than
the symbols of placeholders. Equality looks at the tokens alone, but patterns whose parts belong
together, as those of a compiled one do, then strip, lay out and complete every text alike. -/
theorem compile_faithful :
    (∀ a b : Text, ((compile a == compile b) = true ↔ a = b) ∧
      ((Mask.compile a == Mask.compile b) = true ↔ a = b)) ∧
    (∀ d : Text, let m := compile d
      m.tokens.length = d.length ∧
      (∀ (i : Nat) l, m.tokens[i]? = some (.separator l) ↔
        d[i]? = some l ∧ l ∉ placeholderSymbols) ∧
      (∀ (i : Nat) k, m.tokens[i]? = some (.placeholder k) ↔ d[i]? = some k.symbol) ∧
      m.tokens.map Token.toChar = d ∧
      m.separators.Pairwise (· < ·) ∧
      (∀ c, c ∈ m.separators ↔ .separator c ∈ m.tokens) ∧
      (∀ c, c ∈ m.separators ↔ c ∈ d ∧ c ∉ placeholderSymbols) ∧
      m.Tied) ∧
    ∀ p q : Pattern, p.Tied → q.Tied → (p == q) = true →
      (∀ raw, p.strip raw = q.strip raw) ∧
      (∀ cs raw, p.format cs raw = q.format cs raw) ∧
      ∀ a b o value, (⟨a, p⟩ : Mask).isComplete o value = (⟨b, q⟩ : Mask).isComplete o value := by
  refine ⟨fun a b => ⟨beq_compile_iff, Mask.beq_compile_iff⟩, ?_, ?_⟩
  · intro d m
    exact ⟨List.length_map _, fun _ _ => tokens_getElem?_eq_separator_iff,
      fun _ _ => tokens_getElem?_eq_placeholder_iff, map_toChar_tokens d,
      Alphabet.ascending_ofList _, fun _ => mem_separators_compile,
      fun _ => mem_separators_compile_iff, tied_compile d⟩
  · intro p q hp hq hbeq
    have h : p.tokens = q.tokens := beq_iff.1 hbeq
    exact ⟨hp.strip_congr hq h, hp.format_congr hq h, hp.isComplete_congr hq h⟩

/-- A compiled pattern equals one without a matcher that lists its only literal twice. -/
theorem compile_faithful_without_matcher :
    let p := compile "9-9-".toList
    let q : Pattern := ⟨p.tokens, ['-', '-'], none⟩
    p.matcher ≠ none ∧ p.separators = ['-'] ∧ p.Tied ∧ q.Tied ∧ (p == q) = true ∧
    (∀ raw, p.strip raw = q.strip raw) ∧ (∀ cs raw, p.format cs raw = q.format cs raw) ∧
    q.format false "1-x2-3".toList = ⟨"1-2-".toList, 2⟩ := by
  intro p q
  obtain ⟨-, hcompile, hcongr⟩ := compile_faithful
  obtain ⟨-, -, -, -, -, -, -, hp⟩ := hcompile "9-9-".toList
  have hseparators : p.separators = ['-'] := by decide +kernel
  have hq : q.Tied := by
    refine ⟨fun c => ?_, fun _ hb => nomatch hb⟩
    rw [← hp.mem_separators_iff c, hseparators]
    simp [q]
  have hbeq : (p == q) = true := beq_self_eq_true p.tokens
  obtain ⟨hstrip, hformat, -⟩ := hcongr p q hp hq hbeq
  exact ⟨by decide +kernel, hseparators, hp, hq, hbeq, hstrip, hformat, by decide +kernel⟩

end Pattern

end MaskedInput
