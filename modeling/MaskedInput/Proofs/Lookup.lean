import MaskedInput.Form
import Mathlib.Data.String.Basic
import Mathlib.Tactic.SplitIfs

/-! Lists of entries by identity, as registries and answers are. Each way to change one has a lemma
that says what a lookup finds afterwards, and that needs no order and no distinctness of the
identities. -/

namespace MaskedInput

section Entries

variable {β : Type} {id other : String}

theorem lookup_entry (entry : String × β) (entries : List (String × β)) (id : String) :
    (entry :: entries).lookup id = if id = entry.1 then some entry.2 else entries.lookup id := by
  rw [List.lookup_cons]
  by_cases h : id = entry.1
  · rw [if_pos h, beq_iff_eq.2 h]
  · rw [if_neg h, beq_eq_false_iff_ne.2 h]

theorem isSome_lookup_iff (entries : List (String × β)) (id : String) :
    (entries.lookup id).isSome = true ↔ id ∈ entries.map Prod.fst := by
  rw [List.lookup_isSome_iff, List.mem_map]
  refine exists_congr fun entry => and_congr_right fun _ => ?_
  rw [beq_iff_eq, eq_comm]

theorem lookup_exchange (entries : List (String × β)) (id other : String) (b : β) :
    (entries.map fun entry => if entry.1 = id then (id, b) else entry).lookup other =
      if other = id then (entries.lookup id).map (fun _ => b) else entries.lookup other := by
  induction entries with
  | nil => simp
  | cons entry entries ih =>
      rw [List.map_cons, lookup_entry, ih, lookup_entry, lookup_entry]
      by_cases hentry : entry.1 = id
      · by_cases hother : other = id <;> simp [hentry, hother]
      · by_cases hother : other = id <;> simp [hentry, hother, Ne.symm hentry]

theorem lookup_filter_ne (entries : List (String × β)) (id other : String) :
    (entries.filter (·.1 ≠ id)).lookup other =
      if other = id then none else entries.lookup other := by
  induction entries with
  | nil => simp
  | cons entry entries ih =>
      by_cases hentry : entry.1 = id
      · rw [List.filter_cons_of_neg (by simpa using hentry), ih, lookup_entry, hentry]
        split_ifs <;> rfl
      · rw [List.filter_cons_of_pos (by simpa using hentry), lookup_entry, lookup_entry, ih]
        by_cases hother : other = id
        · simp [hother, Ne.symm hentry]
        · simp [hother]

end Entries

namespace Answers

variable {answers : Answers} {id other : String} {text : Text}

theorem lookup_set (answers : Answers) (id : String) (text : Text) (other : String) :
    (answers.set id text).lookup other = if other = id then some text else answers.lookup other := by
  induction answers with
  | nil => exact lookup_entry (id, text) [] other
  | cons entry answers ih =>
      obtain ⟨first, old⟩ := entry
      rw [set]
      by_cases hsame : id = first
      · rw [if_pos hsame, lookup_entry, lookup_entry, ← hsame]
        split_ifs <;> rfl
      · rw [if_neg hsame]
        by_cases hbefore : id < first
        · rw [if_pos hbefore, lookup_entry]
        · rw [if_neg hbefore, lookup_entry, lookup_entry, ih]
          split_ifs with hfirst hother
          · exact absurd (hother.symm.trans hfirst) hsame
          · rfl
          · rfl
          · rfl

theorem mem_ids_set :
    other ∈ (answers.set id text).map Prod.fst ↔ other = id ∨ other ∈ answers.map Prod.fst := by
  induction answers with
  | nil => simp [set]
  | cons entry answers ih =>
      obtain ⟨first, old⟩ := entry
      rw [set]
      split_ifs with hsame hbefore
      · simp [hsame]
      · simp
      · rw [List.map_cons, List.mem_cons, ih, List.map_cons, List.mem_cons, or_left_comm]

theorem ascending_set (h : (answers.map Prod.fst).Pairwise (· < ·)) :
    ((answers.set id text).map Prod.fst).Pairwise (· < ·) := by
  induction answers with
  | nil => simp [set]
  | cons entry answers ih =>
      obtain ⟨first, old⟩ := entry
      obtain ⟨hfirst, hrest⟩ := List.pairwise_cons.1 h
      rw [set]
      split_ifs with hsame hbefore
      · subst hsame
        exact h
      · refine List.pairwise_cons.2 ⟨fun other hother => ?_, h⟩
        rcases List.mem_cons.1 hother with rfl | hother
        · exact hbefore
        · exact lt_trans hbefore (hfirst other hother)
      · refine List.pairwise_cons.2 ⟨fun other hother => ?_, ih hrest⟩
        rcases mem_ids_set.1 hother with rfl | hother
        · exact lt_of_le_of_ne (not_lt.1 hbefore) (Ne.symm hsame)
        · exact hfirst other hother

end Answers

end MaskedInput
