import MaskedInput.Terminal.Event

/-! The characters that a terminal sends for keys. A control character is a letter pressed with
control, unless a key of its own sends it; an escape character opens a sequence, or stands for alt
with the key behind it. -/

namespace MaskedInput.Keyboard

/-- The key that a single character stands for. A capital letter is a key of its own. -/
def keyOf (c : Char) : Key :=
  let control (base : Nat) : Key := ⟨.char (Char.ofNat (c.toNat + base)), { control := true }⟩
  if c = '\r' then .plain .enter
  else if c = '\t' then .plain .other
  else if c = '\x7f' then .plain .backspace
  else if c = '\x1b' then .plain .escape
  else if c.toNat = 0 then ⟨.char ' ', { control := true }⟩
  else if c.toNat < 0x1b then control ('a'.toNat - 1)
  else if c.toNat < 0x20 then control ('4'.toNat - 0x1c)
  else .plain (.char c)

/-- Modifiers by the number that a sequence gives them. -/
def modifiersOf (number : Nat) : Modifiers :=
  let bits := number - 1
  ⟨bits % 2 = 1, bits / 4 % 2 = 1, bits / 2 % 2 = 1⟩

def number (ds : List Char) : Nat := ds.foldl (fun n d => n * 10 + (d.toNat - '0'.toNat)) 0

/-- The key of a sequence by its last character and its first number. -/
def codeOf (last : Char) (first : Nat) : KeyCode :=
  match last with
  | 'C' => .right
  | 'D' => .left
  | 'H' => .home
  | 'F' => .toEnd
  | '~' =>
    match first with
    | 1 | 7 => .home
    | 4 | 8 => .toEnd
    | 3 => .delete
    | _ => .other
  | _ => .other

/-- The key of a sequence behind its bracket, and what follows the sequence. -/
def sequence? (s : List Char) : Option (Key × List Char) :=
  let first := s.takeWhile Char.isDigit
  let afterFirst := s.dropWhile Char.isDigit
  let (second, rest) := match afterFirst with
    | ';' :: more => (more.takeWhile Char.isDigit, more.dropWhile Char.isDigit)
    | rest => ([], rest)
  match rest with
  | [] => none
  | last :: rest =>
    some (⟨codeOf last (number first), modifiersOf (max 1 (number second))⟩, rest)

/-- The first key of a text that is not empty, and what follows it. -/
def first (c : Char) (rest : List Char) : Key × List Char :=
  if c ≠ '\x1b' then (keyOf c, rest)
  else
    match rest with
    | [] => (.plain .escape, [])
    | '\x1b' :: rest => (.plain .escape, rest)
    | '[' :: more => (sequence? more).getD (.plain .other, [])
    | 'O' :: last :: rest => (⟨codeOf last 0, .none⟩, rest)
    | d :: rest =>
      let k := keyOf d
      ({ k with modifiers := k.modifiers.insert { alt := true } }, rest)

/-- All keys of a text; `fuel` bounds their number. -/
def keysWithin : Nat → List Char → List Key
  | 0, _ | _, [] => []
  | fuel + 1, c :: rest =>
    let (key, rest) := first c rest
    key :: keysWithin fuel rest

def keys (s : List Char) : List Key := keysWithin s.length s

end MaskedInput.Keyboard
