import MaskedInput.Text.WidthTables

/-! The number of terminal columns that a text takes. Most characters have a width of their own;
some join with what follows them (line ends, emoji sequences, flags, ligatures), so a text is
measured from its end and each step knows what stands ahead. -/

namespace MaskedInput.Width

/-- What stands right after a character, as far as it matters for the width. -/
inductive Ahead where
  | plain
  | lineFeed
  | skinTone
  | flagLetter
  | flagLetters
  | emoji
  | joinedEmoji
  | joinedKeycap
  | joinedFlagLetter
  | joinedFlagPairs
  | joinedFlagPairsAndLetter
  | joinedTagEnd
  | joinedTagLetters (count : Nat)
  | joinedTagDigits (count : Nat)
  | alef
  | lamed
  | khmerLetter
  | buginYa
  | buginVowelYa
  | tifinagh
  | tifinaghJoiner
  | lisuTone
  | orkhonI
  | kiratVowelE
  | kiratVowelAi
  deriving Repr, DecidableEq

/-- What stands ahead, with the variation selectors and the joiner between: a selector may ask for
an emoji, for plain text or for a wide quotation mark. -/
structure Context where
  ahead : Ahead := .plain
  asEmoji : Bool := false
  asText : Bool := false
  asWide : Bool := false
  joiner : Bool := false
  deriving Repr, DecidableEq

namespace Ahead

/-- Whether the state waits for a letter to make a ligature with, so that selectors do not end it.
-/
def isLigature : Ahead → Bool
  | .alef | .lamed | .khmerLetter | .buginYa | .buginVowelYa | .tifinagh | .tifinaghJoiner
  | .lisuTone | .orkhonI => true
  | _ => false

/-- Whether the marks of `WidthTables.ignoredInLigature` pass unseen. -/
def passesMarks : Ahead → Bool
  | .lamed | .khmerLetter | .buginYa | .buginVowelYa | .tifinagh | .tifinaghJoiner | .lisuTone
  | .orkhonI => true
  | _ => false

/-- Whether an emoji follows behind a joiner. -/
def isJoined : Ahead → Bool
  | .joinedEmoji | .joinedKeycap => true
  | _ => false

end Ahead

namespace Context

def of (ahead : Ahead) : Context := { ahead }

def isPlain (x : Context) : Bool := x = {}

def requestEmoji (x : Context) : Context :=
  if x.ahead.isLigature || x.ahead.isJoined then { x with asEmoji := true } else { asEmoji := true }

def dropEmojiRequest (x : Context) : Context :=
  if x.ahead.isLigature then { x with asEmoji := false } else {}

def requestText (x : Context) : Context :=
  if x.ahead.isLigature then { x with asText := true } else { asText := true }

def requestWide (x : Context) : Context :=
  if x.ahead.isLigature then { x with asWide := true } else { asWide := true }

end Context

def isFlagLetter (c : Char) : Bool := 0x1F1E6 ≤ c.toNat && c.toNat ≤ 0x1F1FF

def isSkinTone (c : Char) : Bool := 0x1F3FB ≤ c.toNat && c.toNat ≤ 0x1F3FF

def isTifinagh (c : Char) : Bool := (0x2D31 ≤ c.toNat && c.toNat ≤ 0x2D65) || c.toNat = 0x2D6F

def isTagLetter (n : Nat) : Bool := 0xE0061 ≤ n && n ≤ 0xE007A

def isTagDigit (n : Nat) : Bool := 0xE0030 ≤ n && n ≤ 0xE0039

def isCurlyQuote (c : Char) : Bool :=
  c = '\u2018' || c = '\u2019' || c = '\u201C' || c = '\u201D'

/-- The columns of a character that joins with nothing. -/
def alone (c : Char) : Int :=
  if c.toNat = 0x17D8 then 3
  else if WidthTables.zero.contains c.toNat then 0
  else if WidthTables.wide.contains c.toNat then 2
  else 1

/-- What a character is to the one before it. -/
def context (c : Char) : Context :=
  match c.toNat with
  | 0xFE0F => { asEmoji := true }
  | 0xFE0E => { asText := true }
  | 0xFE01 => { asWide := true }
  | 0x05DC => .of .lamed
  | 0x1A10 => .of .buginYa
  | 0xA4FC | 0xA4FD => .of .lisuTone
  | 0x10C03 => .of .orkhonI
  | 0x16D67 => .of .kiratVowelE
  | 0x16D68 => .of .kiratVowelAi
  | n =>
    if WidthTables.alef.contains n then .of .alef
    else if isTifinagh c then .of .tifinagh
    else if WidthTables.khmerSubscript.contains n then .of .khmerLetter
    else if isFlagLetter c then .of .flagLetter
    else if isSkinTone c then .of .skinTone
    else if WidthTables.emojiShown.contains n then .of .emoji
    else {}

/-- A character that joins with what stands ahead: the columns it adds and what it is in turn. -/
def joined? (c : Char) (x : Context) : Option (Int × Context) :=
  let n := c.toNat
  match x.ahead with
  | .alef =>
    if WidthTables.lam.contains n then some (0, {})
    else if WidthTables.betweenLamAndAlef.contains n then some (0, .of .alef) else none
  | .lamed => if x.joiner && n = 0x05D0 then some (0, {}) else none
  | .khmerLetter => if n = 0x17D2 then some (-1, {}) else none
  | .buginYa => if x.joiner && n = 0x1A17 then some (0, .of .buginVowelYa) else none
  | .buginVowelYa => if n = 0x1A15 then some (0, {}) else none
  | .tifinagh =>
    if n = 0x2D7F then some (1, .of .tifinaghJoiner)
    else if x.joiner && isTifinagh c then some (0, {}) else none
  | .tifinaghJoiner => if isTifinagh c then some (-1, {}) else none
  | .lisuTone => if 0xA4F8 ≤ n ∧ n ≤ 0xA4FB then some (0, {}) else none
  | .orkhonI => if x.joiner && n = 0x10C32 then some (0, {}) else none
  | .kiratVowelE =>
    match n with
    | 0x16D63 | 0x16D69 => some (0, {})
    | 0x16D67 => some (0, .of .kiratVowelAi)
    | 0x16D68 => some (1, .of .kiratVowelE)
    | _ => none
  | .kiratVowelAi => if n = 0x16D63 then some (0, {}) else none
  | .skinTone =>
    if WidthTables.modifierBase.contains n then some (0, .of .emoji) else joinEmoji n
  | .flagLetter => if isFlagLetter c then some (1, .of .flagLetters) else none
  | .flagLetters => if isFlagLetter c then some (1, .of .flagLetters) else joinEmoji n
  | .emoji => joinEmoji n
  | .joinedEmoji =>
    if n = 0x20E3 then some (0, .of .joinedKeycap)
    else if isFlagLetter c then some (1, .of .joinedFlagLetter)
    else if isSkinTone c then some (0, .of .skinTone)
    else if n = 0xE007F then some (0, .of .joinedTagEnd)
    else if WidthTables.emojiShown.contains n then some (0, .of .emoji) else none
  | .joinedTagEnd =>
    if isTagLetter n then some (0, .of (.joinedTagLetters 1))
    else if isTagDigit n then some (0, .of (.joinedTagDigits 1)) else none
  | .joinedTagLetters count =>
    if isTagLetter n && count < 6 then some (0, .of (.joinedTagLetters (count + 1)))
    else if isTagDigit n && count < 5 then some (0, .of (.joinedTagDigits 1))
    else if n = 0x1F3F4 && 3 ≤ count then some (0, .of .emoji) else none
  | .joinedTagDigits count =>
    if isTagDigit n && count < 3 then some (0, .of (.joinedTagDigits (count + 1)))
    else if n = 0x1F3F4 && count = 3 then some (0, .of .emoji) else none
  | .joinedFlagLetter => if isFlagLetter c then some (-1, .of .joinedFlagPairs) else none
  | .joinedFlagPairs =>
    if isFlagLetter c then some (3, .of .joinedFlagPairsAndLetter) else joinEmoji n
  | .joinedFlagPairsAndLetter =>
    if isFlagLetter c then some (-1, .of .joinedFlagPairs) else joinEmoji n
  | .plain | .lineFeed | .joinedKeycap => none
where
  joinEmoji (n : Nat) : Option (Int × Context) :=
    if n = 0x200D then some (0, .of .joinedEmoji) else none

/-- A character beyond the ASCII range, by what stands ahead of it. -/
def beyondAscii (c : Char) (x : Context) : Int × Context :=
  let n := c.toNat
  if x.isPlain then (alone c, context c)
  else if n = 0xFE0F then (0, x.requestEmoji)
  else if n = 0xFE0E then (0, x.requestText)
  else if n = 0xFE01 then (0, x.requestWide)
  else if x.asText && WidthTables.textOnRequest.contains n then (1, {})
  else if x.asWide && isCurlyQuote c then (2, {})
  else
    let x := { x with asText := false, asWide := false }
    if x.ahead.passesMarks && n = 0x200D then (0, { x with joiner := true })
    else if x.ahead.passesMarks && WidthTables.ignoredInLigature.contains n then (0, x)
    else (joined? c x).getD (alone c, context c)

/-- One step from the end of the text to its start. -/
def step (c : Char) (x : Context) : Int × Context :=
  if x.asEmoji && WidthTables.emojiOnRequest.contains c.toNat then
    (if x.ahead.isJoined then 0 else 2, .of .emoji)
  else
    let x := if x.asEmoji then x.dropEmojiRequest else x
    if c.toNat ≤ 0xA0 then
      if c = '\n' then (1, .of .lineFeed)
      else if c = '\r' ∧ x = .of .lineFeed then (0, {})
      else (1, {})
    else beyondAscii c x

end Width

/-- The columns a text takes in a terminal. -/
def Text.width (t : Text) : Nat :=
  (t.foldr (fun c (total, ahead) =>
    let (columns, ahead) := Width.step c ahead
    (total + columns, ahead)) ((0 : Int), ({} : Width.Context))).1.toNat

end MaskedInput
