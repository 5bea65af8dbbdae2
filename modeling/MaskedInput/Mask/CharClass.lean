import MaskedInput.Text.CaseMapping

/-! What a placeholder takes. A class has members of its own; when case is ignored it also takes a
character whose other case is a member. -/

namespace MaskedInput

inductive CharClass where
  | digit
  | lower
  | upper
  | any
  deriving Repr, DecidableEq

namespace CharClass

/-- Digits and letters are those of ASCII, with the accented letters of Latin-1 for the letter
classes; `any` is everything but the four line breaks. -/
def contains : CharClass → Char → Bool
  | .digit, c => '0' ≤ c && c ≤ '9'
  | .lower, c => ('a' ≤ c && c ≤ 'z') || ('\u00E0' ≤ c && c ≤ '\u00FC')
  | .upper, c => ('A' ≤ c && c ≤ 'Z') || ('\u00C0' ≤ c && c ≤ '\u00DC')
  | .any, c => c ≠ '\n' && c ≠ '\r' && c ≠ '\u2028' && c ≠ '\u2029'

/-- Ignoring case, a character counts as its upper case and as the lower case of that, as long as
the latter folds back. -/
def accepts (k : CharClass) (caseSensitive : Bool) (c : Char) : Bool :=
  k.contains c || (!caseSensitive && (viaUpper || viaLower))
where
  folded : Char := Letter.fold c
  viaUpper : Bool := folded ≠ c && k.contains folded
  viaLower : Bool :=
    match Letter.lower? folded with
    | some l => l ≠ c && Letter.fold l = folded && k.contains l
    | none => false

theorem accepts_of_contains {k : CharClass} {c : Char} (caseSensitive : Bool)
    (h : k.contains c = true) : k.accepts caseSensitive c = true := by
  simp [accepts, h]

theorem accepts_sensitive (k : CharClass) (c : Char) : k.accepts true c = k.contains c := by
  simp [accepts]

theorem accepts_mono {k : CharClass} {c : Char} (h : k.accepts true c = true) :
    k.accepts false c = true :=
  accepts_of_contains false (accepts_sensitive k c ▸ h)

/-- The characters from one code point to another that a class accepts. -/
def acceptedRanges (k : CharClass) (caseSensitive : Bool) (first last : Nat) : RangeTable :=
  RangeTable.select (fun n => n.isValidChar && k.accepts caseSensitive (Char.ofNat n)) first last

end CharClass

end MaskedInput
