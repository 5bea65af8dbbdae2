import MaskedInput.Proofs.Completeness
import MaskedInput.Proofs.Editing

/-! Values that cover every placeholder. A layout with all placeholders filled reaches the last
one, and shows the separators behind it as well when the input goes on after the last character it
gave (`length_format_of_filled`). A complete value ends on the last placeholder, so these
separators are all that can make a filled value incomplete, and a prompt refuse it. Every mask has
a complete value: its own definition fits its tokens (`fits_definition`) and is laid out up to the
last placeholder. -/

namespace MaskedInput

open Formatted

/-- A text reaches every placeholder when it is as long as the tokens up to the last one. -/
theorem reach_le_iff {tokens : List Token} {n : Nat} :
    reach tokens ≤ n ↔ ∀ (i : Nat) k, tokens[i]? = some (.placeholder k) → i < n := by
  constructor
  · intro hn i k hi
    exact Nat.lt_of_lt_of_le (lt_reach hi) hn
  · intro h
    cases hreach : reach tokens with
    | zero => exact Nat.zero_le n
    | succ q =>
        obtain ⟨⟨k, hk⟩, -⟩ := isLastPlaceholder_of_reach hreach
        exact h q k hk

/-- Behind the last placeholder there are only separators. -/
theorem length_separatorRun_drop_reach (tokens : List Token) :
    (separatorRun (tokens.drop (reach tokens))).length = tokens.length - reach tokens := by
  induction tokens with
  | nil => rfl
  | cons t tokens ih =>
      cases t with
      | separator l =>
          rw [reach]
          split_ifs with h
          · rw [h, List.drop_zero, Nat.sub_zero] at ih
            rw [List.drop_zero, separatorRun, List.length_cons, List.length_cons, ih, Nat.sub_zero]
          · rw [List.drop_succ_cons, ih, List.length_cons, Nat.add_sub_add_right]
      | placeholder k =>
          rw [reach, List.drop_succ_cons, ih, List.length_cons, Nat.add_sub_add_right]

namespace Pattern

variable {p : Pattern} {cs : Bool} {raw : Text}

/-- A layout with all placeholders filled goes up to the last of them, and on to the end of the mask
if the input has more than it took. -/
theorem length_format_of_filled (hfilled : (p.format cs raw).filled = p.placeholderCount) :
    (p.format cs raw).value.length =
      if p.placeholderCount = 0 ∨ p.hasMore cs raw = false then reach p.tokens
      else p.tokens.length := by
  rw [format_eq] at hfilled
  have hlen : (p.chosen cs raw).length = (classes p.tokens).length := by
    rw [length_classes]
    exact hfilled
  have hspread := length_spread hlen
  rw [format_eq, display, ← hfilled]
  dsimp only
  rcases hw : p.chosen cs raw with _ | ⟨c, w⟩
  · rw [hw, spread_nil] at hspread
    exact hspread
  · rw [hw] at hspread
    cases hmore : p.hasMore cs raw with
    | false => simp [hspread]
    | true =>
        have hasks : ¬((c :: w).length = 0 ∨ true = false) := by simp
        rw [if_neg (List.cons_ne_nil c w), if_pos rfl, if_neg hasks, List.length_append, runAfter,
          hspread, length_separatorRun_drop_reach]
        exact Nat.add_sub_cancel' (reach_le_length p.tokens)

end Pattern

namespace Mask

variable {d : Text} {o : MaskOptions}

/-- Every layout fits the tokens, so a complete one is one that ends on the last placeholder. -/
theorem isComplete_format_iff (raw : Text) :
    (compile d).isComplete o ((Pattern.compile d).format o.caseSensitive raw).value = true ↔
      ((Pattern.compile d).format o.caseSensitive raw).value.length =
        reach (Pattern.compile d).tokens := by
  rw [isComplete_iff_fits]
  exact and_iff_left (Pattern.fits_format d o.caseSensitive raw)

theorem isComplete_format_of_filled {raw : Text}
    (hfilled : ((Pattern.compile d).format o.caseSensitive raw).filled =
      (Pattern.compile d).placeholderCount) :
    (compile d).isComplete o ((Pattern.compile d).format o.caseSensitive raw).value = true ↔
      (Pattern.compile d).placeholderCount = 0 ∨
      reach (Pattern.compile d).tokens = (Pattern.compile d).tokens.length ∨
      (Pattern.compile d).hasMore o.caseSensitive raw = false := by
  rw [isComplete_format_iff, Pattern.length_format_of_filled hfilled]
  split_ifs with h
  · exact iff_of_true rfl (h.imp_right .inr)
  · rw [eq_comm, or_left_comm, or_iff_left h]

end Mask

/-! ### The definition as a text -/

theorem CharClass.contains_symbol (k : CharClass) : k.contains k.symbol = true := by
  cases k <;> decide

namespace Pattern

/-- The symbols of placeholders stand for placeholders wherever they are, so none is a separator. -/
theorem symbol_not_mem_separators (d : Text) (k : CharClass) :
    k.symbol ∉ (compile d).separators := by
  intro hmem
  obtain ⟨c, -, hc⟩ := List.mem_map.1 (mem_separators_compile.1 hmem)
  have hsymbol : c = k.symbol := (Token.toChar_ofChar c).symm.trans (congrArg Token.toChar hc)
  rw [hsymbol, Token.ofChar, CharClass.ofSymbol?_symbol] at hc
  cases hc

theorem admits_ofChar (d : Text) (cs : Bool) (c : Char) :
    (compile d).Admits cs (Token.ofChar c) c := by
  have hc := Token.toChar_ofChar c
  cases ht : Token.ofChar c with
  | separator l =>
      rw [ht] at hc
      exact hc.symm
  | placeholder k =>
      rw [ht] at hc
      obtain rfl : k.symbol = c := hc
      exact ⟨CharClass.accepts_of_contains cs k.contains_symbol, symbol_not_mem_separators d k⟩

/-- A definition fits its own tokens: a literal stands on its separator, a symbol on a placeholder
that takes it. -/
theorem fits_definition (d : Text) (cs : Bool) :
    Fits ((compile d).Admits cs) (compile d).tokens d := by
  refine .of_admits (Nat.le_of_eq (List.length_map _).symm) fun i t c ht hc => ?_
  rw [tokens_compile, List.getElem?_map, hc, Option.map_some, Option.some.injEq] at ht
  exact ht ▸ admits_ofChar d cs c

theorem format_definition (d : Text) (cs : Bool) :
    (compile d).format cs d =
      ⟨d.take (reach (compile d).tokens), (compile d).placeholderCount⟩ := by
  have hfits := fits_definition d cs
  have hsep := eachSeparator_compile d
  have htokens : (compile d).tokens.take d.length = (compile d).tokens :=
    List.take_of_length_le (Nat.le_of_eq (List.length_map _))
  rw [format_of_holds_strip (holds_strip hfits), strip_compile, length_filter hsep hfits,
    spread_filter hsep hfits, htokens, length_classes]

end Pattern

namespace Mask

/-- **Every mask is completed by its own definition.** The definition is laid out as it is up to its
last placeholder, each placeholder takes its own symbol, and the value is complete. So whatever
letters and digits are separators, there is a text for every placeholder of the mask. -/
theorem definition_completes (d : Text) (o : MaskOptions) :
    let m := Pattern.compile d
    let f := m.format o.caseSensitive d
    ((∀ c ∈ d, CharClass.ofSymbol? c = none) ∧ f.value = [] ∨
      ∃ q, IsLastPlaceholder m.tokens q ∧ f.value = d.take (q + 1)) ∧
    f.filled = m.placeholderCount ∧
    (∀ (i : Nat) k, m.tokens[i]? = some (.placeholder k) → f.value[i]? = some k.symbol) ∧
    (compile d).isComplete o f.value = true := by
  intro m f
  have hf : f = ⟨d.take (reach m.tokens), m.placeholderCount⟩ :=
    Pattern.format_definition d o.caseSensitive
  have hvalue : f.value = d.take (reach m.tokens) := by rw [hf]
  refine ⟨?_, by rw [hf], fun i k hk => ?_, ?_⟩
  · rw [hvalue]
    cases hreach : reach m.tokens with
    | zero =>
        refine .inl ⟨fun c hc => ?_, List.take_zero⟩
        obtain ⟨i, hi⟩ := List.mem_iff_getElem?.1 hc
        have hnone := reach_eq_zero_iff.1 hreach i
        rw [Pattern.tokens_compile, List.getElem?_map, hi, Option.map_some] at hnone
        cases hsymbol : CharClass.ofSymbol? c with
        | none => rfl
        | some k => exact absurd (by rw [Token.ofChar, hsymbol]) (hnone k)
    | succ q => exact .inr ⟨q, isLastPlaceholder_of_reach hreach, rfl⟩
  · rw [hvalue, List.getElem?_take_of_lt (lt_reach hk)]
    rw [Pattern.tokens_compile, List.getElem?_map] at hk
    obtain ⟨c, hc, hchar⟩ := Option.map_eq_some_iff.1 hk
    rw [hc, ← Token.toChar_ofChar c, hchar]
    rfl
  · rw [isComplete_iff_fits, hvalue]
    refine ⟨?_, (Pattern.fits_definition d o.caseSensitive).take _⟩
    have hle := reach_le_length m.tokens
    rw [Pattern.tokens_compile, List.length_map] at hle
    exact List.length_take_of_le hle

/-- Letters and digits that the placeholders would take are separators here, and go when they are
typed; the symbols still fill the mask. -/
example :
    let m := Pattern.compile "b9B8a)".toList
    m.format false "b9B8a)".toList = ⟨"b9B8a".toList, 2⟩ ∧
      m.strip "b8xB2".toList = "x2".toList := by
  decide +kernel

end Mask

namespace Prompt

variable {d : Text} {o : MaskOptions} {p : Prompt}

theorem press_enter {k : Key} (hk : k.code = .enter) :
    p.press k = if p.acceptable then (.submitted p.value, p)
      else (.editing, { p with refused := true }) := by
  have haction : Action.ofKey k = .submit := by
    rw [Action.ofKey, hk]
  rw [press, haction]
  rfl

/-- The mask and the options are those that the prompt was opened with. -/
theorem Settled.acceptable_iff (h : p.Settled d o) :
    p.acceptable = true ↔ p.value = [] ∨ (Mask.compile d).isComplete o p.value = true := by
  rw [acceptable, h.mask_eq, h.options_eq, Bool.or_eq_true, List.isEmpty_iff]

/-- A line may be submitted when it is empty or ends on the last placeholder. -/
theorem Settled.acceptable_iff_length (h : p.Settled d o) :
    p.acceptable = true ↔ p.value = [] ∨ p.value.length = reach (Pattern.compile d).tokens := by
  rw [h.acceptable_iff, Mask.isComplete_iff_fits, and_iff_left h.fits]

/-- **A filled value can be submitted unless separators stand behind its last placeholder.** They
stand there when the mask ends in separators and the input went on after the last character that was
taken. Without them every layout that fills all placeholders is complete, and every line that covers
all of them is submitted; with them neither holds. -/
theorem filled_submitted_iff (d : Text) (o : MaskOptions) :
    let m := Pattern.compile d
    (∀ raw, (m.format o.caseSensitive raw).filled = m.placeholderCount →
      ((Mask.compile d).isComplete o (m.format o.caseSensitive raw).value = true ↔
        m.placeholderCount = 0 ∨ reach m.tokens = m.tokens.length ∨
          m.hasMore o.caseSensitive raw = false)) ∧
    ∀ (id label : String) (default : Option Text) (keys : List Key) (k : Key),
      let p := (opened id label d o default).after keys
      k.code = .enter →
      (∀ (i : Nat) c, m.tokens[i]? = some (.placeholder c) → i < p.value.length) →
      p.press k = if p.value.length = reach m.tokens then (.submitted p.value, p)
        else (.editing, { p with refused := true }) := by
  intro m
  refine ⟨fun raw hfilled => Mask.isComplete_format_of_filled hfilled, ?_⟩
  intro id label default keys k p hk hcovers
  have h : p.Settled d o := (settled_opened id label d o default).after keys
  have hreach : reach m.tokens ≤ p.value.length := reach_le_iff.2 hcovers
  have haccept : p.acceptable = true ↔ p.value.length = reach m.tokens := by
    rw [h.acceptable_iff_length]
    refine or_iff_right_of_imp fun hnil => ?_
    rw [hnil] at hreach ⊢
    exact (Nat.le_zero.1 hreach).symm
  rw [press_enter hk]
  simp only [haccept]

/-- A third digit shows the bracket behind the second one, and then the line is refused. -/
theorem filled_refused :
    let m := Pattern.compile "(99)".toList
    let f := m.format false "123".toList
    let p := (opened "" "" "(99)".toList ⟨false⟩ none).after
      ("123".toList.map fun c => .plain (.char c))
    f.filled = m.placeholderCount ∧ (Mask.compile "(99)".toList).isComplete ⟨false⟩ f.value = false ∧
    (∀ (i : Nat) c, m.tokens[i]? = some (.placeholder c) → i < p.value.length) ∧
    p.value = "(12)".toList ∧ (p.press (.plain .enter)).1 = .editing := by
  refine ⟨by decide +kernel, by decide +kernel, reach_le_iff.1 ?_, by decide +kernel,
    by decide +kernel⟩
  decide +kernel

/-- Two digits fill the same mask and can be submitted. -/
theorem filled_submitted_brackets :
    let m := Pattern.compile "(99)".toList
    let f := m.format false "12".toList
    let p := (opened "" "" "(99)".toList ⟨false⟩ none).after
      ("12".toList.map fun c => .plain (.char c))
    f.filled = m.placeholderCount ∧ (Mask.compile "(99)".toList).isComplete ⟨false⟩ f.value = true ∧
    (∀ (i : Nat) c, m.tokens[i]? = some (.placeholder c) → i < p.value.length) ∧
    p.press (.plain .enter) = (.submitted "(12".toList, p) := by
  intro m f p
  obtain ⟨hformat, hprompt⟩ := filled_submitted_iff "(99)".toList ⟨false⟩
  have hfilled : f.filled = m.placeholderCount := by decide +kernel
  have hmore : m.hasMore false "12".toList = false := by decide +kernel
  have hvalue : p.value = "(12".toList := by decide +kernel
  have hlen : p.value.length = reach m.tokens := by decide +kernel
  have hcovers := reach_le_iff.1 (Nat.le_of_eq hlen.symm)
  refine ⟨hfilled, (hformat _ hfilled).2 (.inr (.inr hmore)), hcovers, ?_⟩
  have henter := hprompt "" "" none ("12".toList.map fun c => .plain (.char c)) (.plain .enter) rfl
    hcovers
  exact henter.trans ((if_pos hlen).trans (by rw [← hvalue]))

end Prompt

end MaskedInput
