import MaskedInput.Text.CaseTables

/-! Upper and lower case, one character at a time. A form of several characters counts as none. -/

namespace MaskedInput

namespace Letter

/-- The uppercase form of a character, when it is a single character. -/
def upper? (c : Char) : Option Char :=
  if CaseTables.longUpper.contains c.toNat then none
  else some (((ShiftRun.move CaseTables.toUpper c.toNat).map Char.ofNat).getD c)

/-- The lowercase form of a character, when it is a single character. -/
def lower? (c : Char) : Option Char :=
  if CaseTables.longLower.contains c.toNat then none
  else some (((ShiftRun.move CaseTables.toLower c.toNat).map Char.ofNat).getD c)

def isAscii (c : Char) : Bool := c.toNat < 0x80

/-- The character in upper case. A character without a single uppercase form stays as it is, and so
does one outside ASCII whose uppercase form is in ASCII. -/
def fold (c : Char) : Char :=
  match upper? c with
  | some u => if isAscii c || !isAscii u then u else c
  | none => c

end Letter

end MaskedInput
