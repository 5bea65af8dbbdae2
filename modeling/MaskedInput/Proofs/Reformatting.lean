import MaskedInput.Proofs.Undoing

/-! The layout of a layout. Stripping takes from a layout what its placeholders hold, and they take
all of it again, so a second pass only cuts off the separators behind the last placeholder
(`format_format`). What is left ends on a placeholder, and a third pass finds nothing to do. -/

namespace MaskedInput

open Formatted

variable {tokens : List Token} {v : Text}

/-- Without the separators at its end a text is empty or ends on a placeholder. -/
theorem trimmed_ends (tokens : List Token) (v : Text) :
    trimmed tokens v = [] ∨
      IsFilled tokens (trimmed tokens v) ((trimmed tokens v).length - 1) := by
  refine or_iff_not_imp_left.2 fun hne => ?_
  have hpos : 0 < (trimmed tokens v).length := List.length_pos_iff.2 hne
  obtain ⟨i, hle, hi⟩ := lt_length_trimmed_iff.1 (Nat.sub_lt hpos Nat.one_pos)
  rw [← isFilled_trimmed_iff] at hi
  have hlast : i = (trimmed tokens v).length - 1 := Nat.le_antisymm (Nat.le_sub_one_of_lt hi.1) hle
  exact hlast ▸ hi

theorem trimmed_trimmed (tokens : List Token) (v : Text) :
    trimmed tokens (trimmed tokens v) = trimmed tokens v :=
  trimmed_eq_self (trimmed_ends tokens v)

/-- Nothing is cut off exactly when a text is empty or ends on a placeholder. -/
theorem trimmed_eq_self_iff :
    trimmed tokens v = v ↔ v = [] ∨ IsFilled tokens v (v.length - 1) := by
  refine ⟨fun h => ?_, trimmed_eq_self⟩
  have hends := trimmed_ends tokens v
  rwa [h] at hends

namespace Pattern

variable {d : Text} {cs : Bool}

/-- What is cut off behind the last placeholder of a text that fits are literals of separators. -/
theorem separator_of_trimmed_le (hv : Fits ((compile d).Admits cs) (compile d).tokens v) {i : Nat}
    {c : Char} (hi : (trimmed (compile d).tokens v).length ≤ i) (hc : v[i]? = some c) :
    (compile d).tokens[i]? = some (.separator c) := by
  obtain ⟨t, ht, hadmits⟩ := hv.exists_admits hc
  cases t with
  | separator l => rw [ht, show c = l from hadmits]
  | placeholder k =>
      have hfilled : IsFilled (compile d).tokens v i := ⟨(List.getElem?_eq_some_iff.1 hc).1, k, ht⟩
      exact absurd (isFilled_trimmed_iff.2 hfilled).1 (Nat.not_lt.2 hi)

/-- A second pass takes the same characters, and loses the separators behind the last of them. -/
theorem format_format (d : Text) (cs : Bool) (raw : Text) :
    (compile d).format cs ((compile d).format cs raw).value =
      ⟨trimmed (compile d).tokens ((compile d).format cs raw).value,
        ((compile d).format cs raw).filled⟩ := by
  have hfits := fits_format d cs raw
  have hfilled : ((compile d).strip ((compile d).format cs raw).value).length =
      ((compile d).format cs raw).filled := by
    rw [strip_format, format_eq]
  rw [format_of_holds_strip (holds_strip hfits), hfilled, strip_compile, trimmed]
  exact congrArg (Formatted.mk · _) (spread_filter (eachSeparator_compile d) hfits)

/-- **Laying out a layout only cuts off what stands behind its last placeholder.** The placeholders
keep their characters, and what goes are literals of separators. So a layout is laid out as it is
exactly when it is empty or ends on a placeholder, and from the second pass on nothing changes. -/
theorem format_again (d raw : Text) (cs : Bool) :
    let p := compile d
    let first := p.format cs raw
    let second := p.format cs first.value
    second.filled = first.filled ∧ second.value = trimmed p.tokens first.value ∧
    (∀ (i : Nat) k, p.tokens[i]? = some (.placeholder k) → second.value[i]? = first.value[i]?) ∧
    (∀ (i : Nat) c, second.value.length ≤ i → first.value[i]? = some c →
      p.tokens[i]? = some (.separator c)) ∧
    (second.value = [] ∨ IsFilled p.tokens second.value (second.value.length - 1)) ∧
    (second.value = first.value ↔
      first.value = [] ∨ IsFilled p.tokens first.value (first.value.length - 1)) ∧
    p.format cs second.value = second := by
  intro p first second
  have hsecond : second = ⟨trimmed p.tokens first.value, first.filled⟩ := format_format d cs raw
  have hvalue : second.value = trimmed p.tokens first.value := by rw [hsecond]
  have hfilled : second.filled = first.filled := by rw [hsecond]
  refine ⟨hfilled, hvalue, fun i k hk => ?_, fun i c hi hc => ?_, ?_, ?_, ?_⟩
  · rw [hvalue]
    exact getElem?_take_reach hk
  · exact separator_of_trimmed_le (fits_format d cs raw) (hvalue ▸ hi) hc
  · rw [hvalue]
    exact trimmed_ends p.tokens first.value
  · rw [hvalue]
    exact trimmed_eq_self_iff
  · have hthird : p.format cs second.value = ⟨trimmed p.tokens second.value, second.filled⟩ :=
      format_format d cs first.value
    rw [hthird, hvalue, trimmed_trimmed, hsecond]

/-- A third digit shows the bracket behind two others, and the second pass takes it away. -/
example :
    let p := compile "(99)".toList
    let first := p.format false "123".toList
    first.value = "(12)".toList ∧ (p.format false first.value).value = "(12".toList := by
  decide +kernel

end Pattern

end MaskedInput
