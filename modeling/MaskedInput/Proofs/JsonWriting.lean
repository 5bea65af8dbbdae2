import MaskedInput.Json.Text
import MaskedInput.Proofs.JsonReading

/-! What the printed answers say: an object with a member for each of them, in their order
(`writes_ofAnswers`). A character is written as itself or as an escape that stands for it
(`spelled_escaped`), and all else is put around the strings. -/

namespace MaskedInput.Json

theorem hexDigit_hexDigits {n : Nat} (hn : n < 16) : HexDigit n (hexDigits.getD n '0') := by
  have hall : ∀ n < 16, (n, hexDigits.getD n '0') ∈ (List.range 16).zip hexDigits := by decide
  exact List.mem_append_left _ (hall n hn)

/-! ### Strings -/

theorem spelled_escaped (c : Char) {cs : List Char} {s : Text} (tail : Spelled cs s) :
    Spelled (c :: cs) (escaped c ++ s) := by
  unfold escaped
  split
  case h_8 hquote hbackslash _ _ _ _ _ =>
    split_ifs with hcontrol
    · have hzero : HexDigit 0 '0' := hexDigit_hexDigits (by decide)
      have hword : HexWord c.toNat ['0', '0', hexDigits.getD (c.toNat / 16) '0',
          hexDigits.getD (c.toNat % 16) '0'] :=
        .mk hzero hzero (hexDigit_hexDigits (by omega)) (hexDigit_hexDigits (by omega)) (by omega)
      exact .escaped (.word hword) tail
    · exact .plain hquote hbackslash (Nat.le_of_not_lt hcontrol) tail
  all_goals exact .escaped (.letter (by decide)) tail

theorem spelled_flatMap_escaped (t : Text) : Spelled t (t.flatMap escaped ++ ['"']) := by
  induction t with
  | nil => exact .close
  | cons c t ih =>
      rw [List.flatMap_cons, List.append_assoc]
      exact spelled_escaped c ih

/-! ### Answers -/

theorem blank_newline : Blank ['\n'] :=
  fun _ hc => .inr (.inr (.inl (List.mem_singleton.1 hc)))

/-- What an answer stands behind in its object. -/
theorem blank_indent : Blank ['\n', ' ', ' '] := by
  intro c hc
  simp only [List.mem_cons, List.not_mem_nil, or_false] at hc
  rcases hc with rfl | rfl | rfl <;> decide

/-- The member that an answer becomes. -/
def answerMember (a : String × Text) : String × Value := (a.1, .text (String.ofList a.2))

theorem writtenMembers_answerLine {first : Bool} {lead r : Text} {ms : List (String × Value)}
    (hlead : Lead first (lead ++ [' ', ' '])) (a : String × Text)
    (tail : WrittenMembers false ms r) :
    WrittenMembers first (answerMember a :: ms) (lead ++ (answerLine a ++ r)) := by
  have hkey := spelled_flatMap_escaped a.1.toList
  have hvalue : Written (.text (String.ofList a.2)) (string a.2) := by
    refine .text ?_
    rw [String.toList_ofList]
    exact spelled_flatMap_escaped a.2
  have hmember := WrittenMembers.member hlead hkey blank_nil blank_space hvalue tail
  simpa [answerMember, answerLine, string] using hmember

theorem writtenMembers_answerLines {first : Bool} {lead : Text}
    (hlead : Lead first (lead ++ [' ', ' '])) (a : String × Text) (as : Answers) :
    WrittenMembers first ((a :: as).map answerMember)
      (lead ++ (List.intercalate [',', '\n'] ((a :: as).map answerLine) ++ ['\n', '\x7d'])) := by
  induction as generalizing first lead a with
  | nil =>
      have hclose : WrittenMembers false [] ['\n', '\x7d'] := .close blank_newline
      simpa using writtenMembers_answerLine hlead a hclose
  | cons a' as ih =>
      have hnext : Lead false ([',', '\n'] ++ [' ', ' ']) := .next blank_nil blank_indent
      have hmember := writtenMembers_answerLine hlead a (ih hnext a')
      simpa using hmember

/-- **The printed answers write the object of the answers**: it has a member for each answer, in
their order and with their texts. -/
theorem writes_ofAnswers (answers : Answers) :
    Writes (ofAnswers answers).toList (.object (answers.map answerMember)) := by
  cases answers with
  | nil => exact .mk blank_nil (.object (.close blank_nil)) blank_nil rfl
  | cons a as =>
      have hlead : Lead true (['\n'] ++ [' ', ' ']) := .first blank_indent
      refine .mk blank_nil (.object (writtenMembers_answerLines hlead a as)) blank_nil ?_
      rw [ofAnswers, String.toList_ofList]
      · simp
      · exact List.cons_ne_nil a as

end MaskedInput.Json
