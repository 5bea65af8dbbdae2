import MaskedInput.Json.Document
import Mathlib.Tactic.SplitIfs

/-! What a JSON text says, and that it is read as that. The notation is set out as a relation between
values and texts (`Written`), which knows nothing of tokens, cursors or fuel. The tree of a text
shows the value that the text writes (`document_shows`), up to the first number: a number may be too
large to be read, and what stands behind it is left open. -/

namespace MaskedInput.Json

open Document

/-! ### The notation -/

/-- A value. An object keeps the order of its members, and a key may come again; a number is kept as
it is written. -/
inductive Value where
  | null
  | boolean (b : Bool)
  | number (written : Text)
  | text (content : String)
  | array (items : List Value)
  | object (members : List (String × Value))

def Blank (s : Text) : Prop := ∀ c ∈ s, c = ' ' ∨ c = '\t' ∨ c = '\n' ∨ c = '\r'

/-- The digits of a number, at least one. -/
def Digits (s : Text) : Prop := s ≠ [] ∧ ∀ c ∈ s, c.isDigit = true

/-- A sign, digits without a leading zero, a fraction and an exponent. -/
inductive NumberWritten : Text → Prop
  | mk {sign whole fraction exponent : Text} (hsign : sign = [] ∨ sign = ['-'])
      (hwhole : Digits whole) (hzero : whole.head? = some '0' → whole = ['0'])
      (hfraction : fraction = [] ∨ ∃ ds, fraction = '.' :: ds ∧ Digits ds)
      (hexponent : exponent = [] ∨ ∃ e s ds, exponent = e :: (s ++ ds) ∧ (e = 'e' ∨ e = 'E') ∧
        (s = [] ∨ s = ['+'] ∨ s = ['-']) ∧ Digits ds) :
      NumberWritten (sign ++ (whole ++ (fraction ++ exponent)))

/-- A hexadecimal digit in either case. -/
def HexDigit (n : Nat) (c : Char) : Prop :=
  (n, c) ∈ (List.range 16).zip "0123456789abcdef".toList ++
    (List.range 16).zip "0123456789ABCDEF".toList

/-- A number below `0x10000` in four hexadecimal digits. -/
inductive HexWord : Nat → Text → Prop
  | mk {i j k l n : Nat} {w x y z : Char} (hw : HexDigit i w) (hx : HexDigit j x)
      (hy : HexDigit k y) (hz : HexDigit l z) (hn : n = ((i * 16 + j) * 16 + k) * 16 + l) :
      HexWord n [w, x, y, z]

/-- The letter behind a backslash, with the character that it stands for. -/
def escapes : List (Char × Char) :=
  [('"', '"'), ('\\', '\\'), ('/', '/'), ('b', '\x08'), ('f', '\x0c'), ('n', '\n'), ('r', '\r'),
    ('t', '\t')]

/-- What stands behind the backslash where a character is escaped. One beyond the first plane takes
a pair of surrogates; a surrogate on its own stands for no character. -/
inductive Escaped : Char → Text → Prop
  | letter {e c : Char} (he : (e, c) ∈ escapes) : Escaped c [e]
  | word {c : Char} {w : Text} (hw : HexWord c.toNat w) : Escaped c ('u' :: w)
  | pair {c : Char} {high low : Nat} {v w : Text} (hv : HexWord high v)
      (hhigh : 0xD800 ≤ high ∧ high ≤ 0xDBFF) (hw : HexWord low w)
      (hlow : 0xDC00 ≤ low ∧ low ≤ 0xDFFF)
      (hc : c.toNat = 0x10000 + (high - 0xD800) * 0x400 + (low - 0xDC00)) :
      Escaped c ('u' :: (v ++ '\\' :: 'u' :: w))

/-- The characters of a string, as they are written behind the opening quote and with the closing
one. -/
inductive Spelled : List Char → Text → Prop
  | close : Spelled [] ['"']
  | plain {c : Char} {cs : List Char} {s : Text} (hquote : c ≠ '"') (hbackslash : c ≠ '\\')
      (hcontrol : 0x20 ≤ c.toNat) (tail : Spelled cs s) : Spelled (c :: cs) (c :: s)
  | escaped {c : Char} {cs : List Char} {w s : Text} (hw : Escaped c w) (tail : Spelled cs s) :
      Spelled (c :: cs) ('\\' :: (w ++ s))

theorem blank_nil : Blank [] := nofun

theorem blank_space : Blank [' '] := fun _ hc => .inl (List.mem_singleton.1 hc)

def isPlain (c : Char) : Bool := c ≠ '"' && c ≠ '\\' && 0x20 ≤ c.toNat

/-- Characters that need no escape are written as they are. -/
theorem Spelled.of_plain {cs : List Char} (h : cs.all isPlain = true) : Spelled cs (cs ++ ['"']) := by
  induction cs with
  | nil => exact .close
  | cons c cs ih =>
      rw [List.all_cons, Bool.and_eq_true] at h
      obtain ⟨hplain, htail⟩ := h
      simp only [isPlain, Bool.and_eq_true, decide_eq_true_eq] at hplain
      obtain ⟨⟨hquote, hbackslash⟩, hcontrol⟩ := hplain
      exact .plain hquote hbackslash hcontrol (ih htail)

/-- What stands before an item: blanks, and a comma unless it is the first one. -/
inductive Lead : Bool → Text → Prop
  | first {b : Text} (hb : Blank b) : Lead true b
  | next {b b' : Text} (hb : Blank b) (hb' : Blank b') : Lead false (b ++ ',' :: b')

mutual

/-- A text without blanks around it writes a value. -/
inductive Written : Value → Text → Prop
  | null : Written .null ['n', 'u', 'l', 'l']
  | yes : Written (.boolean true) ['t', 'r', 'u', 'e']
  | no : Written (.boolean false) ['f', 'a', 'l', 's', 'e']
  | number {s : Text} (hs : NumberWritten s) : Written (.number s) s
  | text {t : String} {s : Text} (hs : Spelled t.toList s) : Written (.text t) ('"' :: s)
  | array {vs : List Value} {s : Text} (hs : WrittenItems true vs s) :
      Written (.array vs) ('[' :: s)
  | object {ms : List (String × Value)} {s : Text} (hs : WrittenMembers true ms s) :
      Written (.object ms) ('\x7b' :: s)

/-- The items of an array, behind the opening bracket or behind an item, with the closing bracket. -/
inductive WrittenItems : Bool → List Value → Text → Prop
  | close {first : Bool} {b : Text} (hb : Blank b) : WrittenItems first [] (b ++ [']'])
  | item {first : Bool} {lead s r : Text} {v : Value} {vs : List Value} (hlead : Lead first lead)
      (head : Written v s) (tail : WrittenItems false vs r) :
      WrittenItems first (v :: vs) (lead ++ (s ++ r))

/-- The members of an object, like the items of an array. -/
inductive WrittenMembers : Bool → List (String × Value) → Text → Prop
  | close {first : Bool} {b : Text} (hb : Blank b) : WrittenMembers first [] (b ++ ['\x7d'])
  | member {first : Bool} {lead k b b' s r : Text} {key : String} {v : Value}
      {ms : List (String × Value)} (hlead : Lead first lead) (hkey : Spelled key.toList k)
      (hb : Blank b) (hb' : Blank b') (head : Written v s) (tail : WrittenMembers false ms r) :
      WrittenMembers first ((key, v) :: ms)
        (lead ++ ('"' :: (k ++ (b ++ (':' :: (b' ++ (s ++ r)))))))

end

/-- A text writes a value, with blanks around it. -/
inductive Writes (text : Text) (v : Value) : Prop
  | mk {before s after : Text} (hbefore : Blank before) (hs : Written v s) (hafter : Blank after)
      (htext : text = before ++ (s ++ after)) : Writes text v

/-! ### Cursors -/

namespace Cursor

/-- The lexeme that starts right at a cursor. -/
def here (c : Cursor) : Lexeme := ⟨(tokenAt c).1, c, (tokenAt c).2⟩

theorem rest_advance {c : Cursor} {x : Char} {s : Text} (hc : c.rest = x :: s) :
    c.advance.rest = s := by
  rw [advance, hc]

/-- Blanks before a token are passed over. -/
theorem exists_lexeme_eq {c : Cursor} {b s : Text} (hb : Blank b) (hs : s.dropWhile isBlank = s)
    (hc : c.rest = b ++ s) : ∃ d : Cursor, d.rest = s ∧ c.lexeme = d.here := by
  have hblank : ∀ x ∈ b, isBlank x = true := by
    intro x hx
    rcases hb x hx with rfl | rfl | rfl | rfl <;> rfl
  refine ⟨c.skipBlanks, ?_, rfl⟩
  change c.rest.dropWhile isBlank = s
  rw [hc, List.dropWhile_append_of_pos hblank, hs]

end Cursor

/-! ### Strings -/

theorem hexDigit?_eq {n : Nat} {c : Char} (h : HexDigit n c) :
    hexDigit? c = some n ∧ c.utf8Size = 1 := by
  have hall : ∀ p ∈ (List.range 16).zip "0123456789abcdef".toList ++
      (List.range 16).zip "0123456789ABCDEF".toList,
      hexDigit? p.2 = some p.1 ∧ p.2.utf8Size = 1 := by decide
  exact hall _ h

theorem hexWord_eq {n : Nat} {w rest : Text} {c : Cursor} (hw : HexWord n w)
    (hc : c.rest = w ++ rest) :
    ∃ after : Cursor, hexWord c = .ok (n, after) ∧ after.rest = rest := by
  obtain ⟨hw, hx, hy, hz, rfl⟩ := hw
  obtain ⟨hw, hwsize⟩ := hexDigit?_eq hw
  obtain ⟨hx, hxsize⟩ := hexDigit?_eq hx
  obtain ⟨hy, hysize⟩ := hexDigit?_eq hy
  obtain ⟨hz, hzsize⟩ := hexDigit?_eq hz
  simp only [List.cons_append, List.nil_append] at hc
  simp [hexWord, Cursor.bytes?, Cursor.bytes?.go, hc, hw, hx, hy, hz, hwsize, hxsize, hysize,
    hzsize]

theorem expectPaired_eq {x : Char} {s : Text} {c : Cursor} (hc : c.rest = x :: s) :
    expectPaired x c = .ok c.advance := by
  rw [expectPaired, hc]
  exact if_pos rfl

theorem escape_unicode {rest : Text} {c : Cursor} (hc : c.rest = 'u' :: rest) :
    escape c = unicodeEscape c.advance := by
  rw [escape, hc]
  rfl

/-- An escape is read as the character that it stands for. -/
theorem escape_eq {x : Char} {w rest : Text} {c : Cursor} (hw : Escaped x w)
    (hc : c.rest = w ++ rest) :
    ∃ after : Cursor, escape c = .ok (x, after) ∧ after.rest = rest := by
  cases hw with
  | @letter e x he =>
      refine ⟨c.advance, ?_, Cursor.rest_advance hc⟩
      simp only [escapes, List.mem_cons, Prod.mk.injEq, List.not_mem_nil, or_false] at he
      rcases he with ⟨rfl, rfl⟩ | ⟨rfl, rfl⟩ | ⟨rfl, rfl⟩ | ⟨rfl, rfl⟩ | ⟨rfl, rfl⟩ | ⟨rfl, rfl⟩ |
        ⟨rfl, rfl⟩ | ⟨rfl, rfl⟩ <;> (rw [escape, hc]; rfl)
  | word hw =>
      obtain ⟨after, heq, hafter⟩ := hexWord_eq hw (Cursor.rest_advance hc)
      refine ⟨after, ?_, hafter⟩
      have hvalid : x.toNat < 0xD800 ∨ 0xDFFF < x.toNat ∧ x.toNat < 0x110000 := x.valid
      rw [escape_unicode hc, unicodeEscape, heq]
      change (if _ then _ else _) = _
      rw [if_neg (by omega), if_neg (by omega), Char.ofNat_toNat]
  | @pair x high low v w hv hhigh hw hlow hx =>
      have hrest : c.advance.rest = v ++ ('\\' :: 'u' :: (w ++ rest)) := by
        rw [Cursor.rest_advance hc]
        exact List.append_assoc _ _ _
      obtain ⟨c₁, heq₁, hrest₁⟩ := hexWord_eq hv hrest
      have hrest₂ := Cursor.rest_advance hrest₁
      obtain ⟨after, heq₂, hafter⟩ := hexWord_eq hw (Cursor.rest_advance hrest₂)
      refine ⟨after, ?_, hafter⟩
      have hcode : (high - 0xD800) * 0x400 + (low - 0xDC00) + 0x10000 = x.toNat := by omega
      rw [escape_unicode hc, unicodeEscape, heq₁]
      change (if _ then _ else _) = _
      rw [if_neg (by omega), if_pos hhigh, expectPaired_eq hrest₁]
      change (expectPaired _ _ >>= _) = _
      rw [expectPaired_eq hrest₂]
      change (hexWord _ >>= _) = _
      rw [heq₂]
      change (if _ then _ else _) = _
      rw [if_pos hlow, hcode, Char.ofNat_toNat]

theorem stringFrom_succ {fuel : Nat} {read : List Char} {c : Cursor} {x : Char} {s : Text}
    (hc : c.rest = x :: s) :
    stringFrom (fuel + 1) read c =
      if x = '"' then .ok (String.ofList read.reverse, c.advance)
      else if x = '\\' then
        match escape c.advance with
        | .ok (y, c) => stringFrom fuel (y :: read) c
        | .error f => .error f
      else if x.toNat < 0x20 then .error ⟨.controlCharacter, firstByte c.mark x⟩
      else stringFrom fuel (x :: read) c.advance := by
  have hunfold := stringFrom.eq_def (fuel + 1) read c
  rw [hc] at hunfold
  exact hunfold

/-- A string is read to its closing quote. -/
theorem stringFrom_eq {cs : List Char} {s rest : Text} (hs : Spelled cs s) (fuel : Nat)
    (hfuel : s.length ≤ fuel) (read : List Char) {c : Cursor} (hc : c.rest = s ++ rest) :
    ∃ after : Cursor, stringFrom fuel read c = .ok (String.ofList (read.reverse ++ cs), after) ∧
      after.rest = rest := by
  induction hs generalizing fuel read c with
  | close =>
      obtain ⟨fuel, rfl⟩ := Nat.exists_eq_add_of_le' hfuel
      refine ⟨c.advance, ?_, Cursor.rest_advance hc⟩
      rw [List.length_singleton, stringFrom_succ hc, if_pos rfl, List.append_nil]
  | @plain x cs s hquote hbackslash hcontrol tail ih =>
      obtain ⟨fuel, rfl⟩ := Nat.exists_eq_add_of_le' hfuel
      obtain ⟨after, heq, hafter⟩ :=
        ih _ (Nat.le_add_left _ fuel) (x :: read) (Cursor.rest_advance hc)
      refine ⟨after, ?_, hafter⟩
      rw [List.length_cons, ← Nat.add_assoc, stringFrom_succ hc, if_neg hquote,
        if_neg hbackslash, if_neg (Nat.not_lt.2 hcontrol), heq, List.reverse_cons,
        List.append_assoc, List.singleton_append]
  | @escaped x cs w s hw tail ih =>
      have hrest : c.advance.rest = w ++ (s ++ rest) := by
        rw [Cursor.rest_advance hc]
        exact List.append_assoc _ _ _
      obtain ⟨c₁, hescape, hrest₁⟩ := escape_eq hw hrest
      obtain ⟨fuel, rfl⟩ := Nat.exists_eq_succ_of_ne_zero
        (Nat.ne_of_gt (Nat.lt_of_lt_of_le (Nat.succ_pos _) hfuel))
      have hshorter : s.length ≤ fuel := by
        rw [List.length_cons, List.length_append] at hfuel
        omega
      obtain ⟨after, heq, hafter⟩ := ih _ hshorter (x :: read) hrest₁
      refine ⟨after, ?_, hafter⟩
      rw [stringFrom_succ hc, if_neg (by decide), if_pos rfl, hescape]
      dsimp only
      rw [heq, List.reverse_cons, List.append_assoc, List.singleton_append]

/-! ### Tokens -/

theorem word_eq {scalar : Scalar} {letters rest : Text} {c : Cursor}
    (hc : c.rest = letters ++ rest) :
    ∃ after : Cursor, word scalar letters c = (.word scalar, after) ∧ after.rest = rest := by
  induction letters generalizing c with
  | nil => exact ⟨c, by rw [word], hc⟩
  | cons l letters ih =>
      obtain ⟨after, heq, hafter⟩ := ih (Cursor.rest_advance hc)
      refine ⟨after, ?_, hafter⟩
      rw [word, hc]
      exact (if_pos rfl).trans heq

/-- The words, with the scalars that they stand for. -/
def words : List (Text × Scalar) :=
  [(['n', 'u', 'l', 'l'], null), (['t', 'r', 'u', 'e'], boolean true),
    (['f', 'a', 'l', 's', 'e'], boolean false)]

/-- The characters that are tokens by themselves. -/
def signs : List (Char × Token) :=
  [('[', .openBracket), (']', .closeBracket), ('\x7b', .openBrace), ('\x7d', .closeBrace),
    (',', .comma), (':', .colon)]

section Tokens

variable {s rest : Text} {d : Cursor}

theorem tokenAt_text {t : String} (hs : Spelled t.toList s) (hd : d.rest = '"' :: (s ++ rest)) :
    ∃ after : Cursor, tokenAt d = (.text t, after) ∧ after.rest = rest := by
  obtain ⟨after, heq, hafter⟩ := stringFrom_eq hs ((s ++ rest).length + 1)
    (by rw [List.length_append]; omega) [] (Cursor.rest_advance hd)
  refine ⟨after, ?_, hafter⟩
  rw [tokenAt, hd]
  dsimp only
  rw [heq]
  simp

theorem tokenAt_word {letters : Text} (scalar : Scalar) (hword : (letters, scalar) ∈ words)
    (hd : d.rest = letters ++ rest) :
    ∃ after : Cursor, tokenAt d = (.word scalar, after) ∧ after.rest = rest := by
  simp only [words, List.mem_cons, Prod.mk.injEq, List.not_mem_nil, or_false] at hword
  rcases hword with ⟨rfl, rfl⟩ | ⟨rfl, rfl⟩ | ⟨rfl, rfl⟩ <;>
    (rw [tokenAt, hd]; exact word_eq (Cursor.rest_advance hd))

theorem NumberWritten.head (h : NumberWritten s) :
    ∃ x s', s = x :: s' ∧ (x = '-' ∨ x.isDigit = true) := by
  obtain ⟨hsign, ⟨hne, hdigits⟩, -, -, -⟩ := h
  rcases hsign with rfl | rfl
  · obtain ⟨x, ds, rfl⟩ := List.exists_cons_of_ne_nil hne
    exact ⟨x, _, rfl, .inr (hdigits x List.mem_cons_self)⟩
  · exact ⟨'-', _, rfl, .inl rfl⟩

/-- A number is a word or a fault. -/
theorem tokenAt_number (hs : NumberWritten s) (hd : d.rest = s ++ rest) :
    (∃ n, (tokenAt d).1 = .word (number n)) ∨ ∃ f, (tokenAt d).1 = .fault f := by
  obtain ⟨x, s', rfl, hx⟩ := hs.head
  rw [tokenAt, hd]
  dsimp only [List.cons_append]
  split
  all_goals try exact absurd hx (by decide)
  rw [if_pos hx]
  cases Number.scan d with
  | error f => exact .inr ⟨f, rfl⟩
  | ok result => exact .inl ⟨result.1, rfl⟩

theorem tokenAt_sign {x : Char} (t : Token) (hsign : (x, t) ∈ signs) (hd : d.rest = x :: s) :
    tokenAt d = (t, d.advance) := by
  simp only [signs, List.mem_cons, Prod.mk.injEq, List.not_mem_nil, or_false] at hsign
  rcases hsign with ⟨rfl, rfl⟩ | ⟨rfl, rfl⟩ | ⟨rfl, rfl⟩ | ⟨rfl, rfl⟩ | ⟨rfl, rfl⟩ | ⟨rfl, rfl⟩ <;>
    (rw [tokenAt, hd]; rfl)

end Tokens

/-! ### Trees -/

mutual

/-- A node shows a value, as a whole or up to the first number in it. -/
inductive Shows : Bool → Value → Node → Prop
  | null (m : Mark) : Shows true .null (.scalar Json.null m)
  | boolean (b : Bool) (m : Mark) : Shows true (.boolean b) (.scalar (Json.boolean b) m)
  | text (t : String) (m : Mark) : Shows true (.text t) (.scalar (textScalar t) m)
  | number (s : Text) (n : Number) (m : Mark) : Shows false (.number s) (.scalar (number n) m)
  | unreadable (s : Text) (f : Fault) : Shows false (.number s) (.fault f)
  | array {whole : Bool} {vs : List Value} {is : Items Fault} (m : Mark)
      (h : ShowsItems whole vs is) : Shows whole (.array vs) (.sequence is m)
  | object {whole : Bool} {ms : List (String × Value)} {ns : Members Fault} (m : Mark)
      (h : ShowsMembers whole ms ns) : Shows whole (.object ms) (.mapping ns m)

inductive ShowsItems : Bool → List Value → Items Fault → Prop
  | close (m : Mark) : ShowsItems true [] (.close m)
  | item {whole : Bool} {v : Value} {vs : List Value} {n : Node} {is : Items Fault} (f : Fault)
      (head : Shows true v n) (tail : ShowsItems whole vs is) :
      ShowsItems whole (v :: vs) (.item f n is)
  | last {v : Value} {vs : List Value} {n : Node} {is : Items Fault} (f : Fault)
      (head : Shows false v n) : ShowsItems false (v :: vs) (.item f n is)

inductive ShowsMembers : Bool → List (String × Value) → Members Fault → Prop
  | close (m : Mark) : ShowsMembers true [] (.close m)
  | member {whole : Bool} {v : Value} {ms : List (String × Value)} {n : Node}
      {ns : Members Fault} (key : String) (m m' : Mark) (head : Shows true v n)
      (tail : ShowsMembers whole ms ns) :
      ShowsMembers whole ((key, v) :: ms) (.member (.scalar (textScalar key) m) m' n ns)
  | last {v : Value} {ms : List (String × Value)} {n : Node} {ns : Members Fault} (key : String)
      (m m' : Mark) (head : Shows false v n) :
      ShowsMembers false ((key, v) :: ms) (.member (.scalar (textScalar key) m) m' n ns)

end

/-- Tokens that a value can start with. -/
def Token.StartsValue : Token → Prop
  | .openBrace | .openBracket | .text _ | .word _ | .fault _ => True
  | _ => False

section Steps

variable {s rest b lead : Text} {d c : Cursor} {v : Value} {first : Bool}

theorem Written.startsValue (h : Written v s) (hd : d.rest = s ++ rest) :
    d.here.token.StartsValue := by
  cases h with
  | null =>
      obtain ⟨after, heq, -⟩ := tokenAt_word Json.null (by decide) hd
      rw [Cursor.here, heq]
      trivial
  | yes =>
      obtain ⟨after, heq, -⟩ := tokenAt_word (boolean true) (by decide) hd
      rw [Cursor.here, heq]
      trivial
  | no =>
      obtain ⟨after, heq, -⟩ := tokenAt_word (boolean false) (by decide) hd
      rw [Cursor.here, heq]
      trivial
  | number hs =>
      rcases tokenAt_number hs hd with ⟨n, heq⟩ | ⟨f, heq⟩
      · change (tokenAt d).1.StartsValue
        rw [heq]
        trivial
      · change (tokenAt d).1.StartsValue
        rw [heq]
        trivial
  | text hs =>
      obtain ⟨after, heq, -⟩ := tokenAt_text hs hd
      rw [Cursor.here, heq]
      trivial
  | array hs =>
      rw [Cursor.here, tokenAt_sign .openBracket (by decide) hd]
      trivial
  | object hs =>
      rw [Cursor.here, tokenAt_sign .openBrace (by decide) hd]
      trivial

theorem Written.dropWhile_isBlank (h : Written v s) :
    (s ++ rest).dropWhile Cursor.isBlank = s ++ rest := by
  cases h with
  | number hs =>
      obtain ⟨x, s', rfl, hx⟩ := hs.head
      refine List.dropWhile_cons_of_neg fun hblank => ?_
      simp only [Cursor.isBlank, Bool.or_eq_true, decide_eq_true_eq, or_assoc] at hblank
      rcases hblank with rfl | rfl | rfl | rfl <;> exact absurd hx (by decide)
  | _ => rfl

theorem Written.length_pos (h : Written v s) : 0 < s.length := by
  cases h with
  | number hs =>
      obtain ⟨x, s', rfl, -⟩ := hs.head
      exact Nat.succ_pos _
  | _ => exact Nat.succ_pos _

theorem Lead.exists_lexeme_eq (hlead : Lead true lead) (hs : s.dropWhile Cursor.isBlank = s)
    (hc : c.rest = lead ++ s) : ∃ d : Cursor, d.rest = s ∧ c.lexeme = d.here := by
  cases hlead with
  | first hb => exact Cursor.exists_lexeme_eq hb hs hc

theorem Lead.exists_comma (hlead : Lead false lead) (hs : s.dropWhile Cursor.isBlank = s)
    (hc : c.rest = lead ++ s) :
    ∃ d e : Cursor, d.rest = s ∧ c.lexeme = ⟨.comma, e, e.advance⟩ ∧
      e.advance.lexeme = d.here := by
  cases hlead with
  | next hb hb' =>
      rw [List.append_assoc] at hc
      obtain ⟨e, he, hcomma⟩ := Cursor.exists_lexeme_eq hb rfl hc
      obtain ⟨d, hd, hnext⟩ := Cursor.exists_lexeme_eq hb' hs (Cursor.rest_advance he)
      rw [Cursor.here, tokenAt_sign .comma (by decide) he] at hcomma
      exact ⟨d, e, hd, hcomma, hnext⟩

/-! ### Steps of the descent -/

theorem items_close (hb : Blank b) (hc : c.rest = b ++ ']' :: rest) (fuel : Nat) :
    ∃ m after, items (fuel + 1) first c = (.close m, after) ∧ after.rest = rest := by
  obtain ⟨d, hd, hlexeme⟩ := Cursor.exists_lexeme_eq hb rfl hc
  refine ⟨d.advance.mark, d.advance, ?_, Cursor.rest_advance hd⟩
  rw [Cursor.here, tokenAt_sign .closeBracket (by decide) hd] at hlexeme
  rw [items, hlexeme]

theorem items_lead (hlead : Lead first lead) (hs : s.dropWhile Cursor.isBlank = s)
    (hstarts : ∀ d : Cursor, d.rest = s → d.here.token.StartsValue) (hc : c.rest = lead ++ s)
    (fuel : Nat) : ∃ d : Cursor, d.rest = s ∧ items (fuel + 1) first c = item fuel d.here := by
  cases first with
  | true =>
      obtain ⟨d, hd, hlexeme⟩ := hlead.exists_lexeme_eq hs hc
      refine ⟨d, hd, ?_⟩
      have hstart := hstarts d hd
      rw [items, hlexeme]
      dsimp only
      split <;> rename_i htoken
      · rw [htoken] at hstart
        exact hstart.elim
      · rw [htoken] at hstart
        exact hstart.elim
      · exact if_pos rfl
  | false =>
      obtain ⟨d, e, hd, hcomma, hnext⟩ := hlead.exists_comma hs hc
      refine ⟨d, hd, ?_⟩
      have hstart := hstarts d hd
      rw [items, hcomma]
      dsimp only
      rw [if_neg (by decide), if_pos rfl, hnext]
      split <;> rename_i htoken
      · rw [htoken] at hstart
        exact hstart.elim
      · rw [htoken] at hstart
        exact hstart.elim
      · rfl

theorem members_close (hb : Blank b) (hc : c.rest = b ++ '\x7d' :: rest) (fuel : Nat) :
    ∃ m after, members (fuel + 1) first c = (.close m, after) ∧ after.rest = rest := by
  obtain ⟨d, hd, hlexeme⟩ := Cursor.exists_lexeme_eq hb rfl hc
  refine ⟨d.advance.mark, d.advance, ?_, Cursor.rest_advance hd⟩
  rw [Cursor.here, tokenAt_sign .closeBrace (by decide) hd] at hlexeme
  rw [members, hlexeme]

/-- The key of a member is read, behind what stands before it. -/
theorem members_lead {key : String} {k : Text} (hlead : Lead first lead)
    (hkey : Spelled key.toList k) (hc : c.rest = lead ++ ('"' :: (k ++ s))) (fuel : Nat) :
    ∃ d after : Cursor, after.rest = s ∧
      members (fuel + 1) first c = member fuel ⟨.text key, d, after⟩ := by
  cases first with
  | true =>
      obtain ⟨d, hd, hlexeme⟩ := hlead.exists_lexeme_eq rfl hc
      obtain ⟨after, htext, hafter⟩ := tokenAt_text hkey hd
      refine ⟨d, after, hafter, ?_⟩
      rw [Cursor.here, htext] at hlexeme
      rw [members, hlexeme]
      exact if_pos rfl
  | false =>
      obtain ⟨d, e, hd, hcomma, hnext⟩ := hlead.exists_comma rfl hc
      obtain ⟨after, htext, hafter⟩ := tokenAt_text hkey hd
      refine ⟨d, after, hafter, ?_⟩
      rw [Cursor.here, htext] at hnext
      rw [members, hcomma]
      dsimp only
      rw [if_neg (by decide), if_pos rfl, hnext]

theorem memberValue_colon {b' : Text} (hb : Blank b) (hb' : Blank b')
    (hs : s.dropWhile Cursor.isBlank = s) (hc : c.rest = b ++ (':' :: (b' ++ s))) (fuel : Nat) :
    ∃ d : Cursor, d.rest = s ∧ memberValue (fuel + 1) c = value fuel d.here := by
  obtain ⟨e, he, hcolon⟩ := Cursor.exists_lexeme_eq hb rfl hc
  obtain ⟨d, hd, hnext⟩ := Cursor.exists_lexeme_eq hb' hs (Cursor.rest_advance he)
  refine ⟨d, hd, ?_⟩
  rw [Cursor.here, tokenAt_sign .colon (by decide) he] at hcolon
  rw [memberValue, hcolon]
  dsimp only
  rw [hnext]

theorem member_succ (fuel : Nat) (key : String) (d after : Cursor) :
    member (fuel + 1) ⟨.text key, d, after⟩ =
      (.member (.scalar (textScalar key) (keyMark after)) (keyMark after)
        (memberValue fuel after).1 (members fuel false (memberValue fuel after).2).1,
      (members fuel false (memberValue fuel after).2).2) := by
  rw [member]

theorem item_succ (fuel : Nat) (l : Lexeme) :
    item (fuel + 1) l =
      (.item (l.faultAt .trailingCharacters) (value fuel l).1 (items fuel false (value fuel l).2).1,
      (items fuel false (value fuel l).2).2) := by
  rw [item]

end Steps

mutual

/-- The tree of a written value shows the value, and what stands behind it is left. -/
theorem Written.shows {v : Value} {s : Text} (h : Written v s) (fuel : Nat)
    (hfuel : 4 * s.length ≤ fuel) {d : Cursor} {rest : Text} (hd : d.rest = s ++ rest) :
    ∃ whole, Shows whole v (value fuel d.here).1 ∧
      (whole = true → (value fuel d.here).2.rest = rest) := by
  obtain ⟨fuel, rfl⟩ : ∃ n, fuel = n + 1 := ⟨fuel - 1, by have := h.length_pos; omega⟩
  cases h with
  | null =>
      obtain ⟨after, htoken, hafter⟩ := tokenAt_word Json.null (by decide) hd
      rw [Cursor.here, htoken, value]
      exact ⟨true, .null _, fun _ => hafter⟩
  | yes =>
      obtain ⟨after, htoken, hafter⟩ := tokenAt_word (boolean true) (by decide) hd
      rw [Cursor.here, htoken, value]
      exact ⟨true, .boolean true _, fun _ => hafter⟩
  | no =>
      obtain ⟨after, htoken, hafter⟩ := tokenAt_word (boolean false) (by decide) hd
      rw [Cursor.here, htoken, value]
      exact ⟨true, .boolean false _, fun _ => hafter⟩
  | number hs =>
      refine ⟨false, ?_, fun h => nomatch h⟩
      rcases tokenAt_number hs hd with ⟨n, htoken⟩ | ⟨f, htoken⟩
      · rw [Cursor.here, htoken, value]
        exact .number _ n _
      · rw [Cursor.here, htoken, value]
        exact .unreadable _ f
  | text hs =>
      obtain ⟨after, htoken, hafter⟩ := tokenAt_text hs hd
      rw [Cursor.here, htoken, value]
      exact ⟨true, .text _ _, fun _ => hafter⟩
  | @array vs s hs =>
      rw [List.length_cons] at hfuel
      obtain ⟨whole, hitems, hend⟩ := hs.shows fuel (by omega) (Cursor.rest_advance hd)
      rw [Cursor.here, tokenAt_sign .openBracket (by decide) hd, value]
      exact ⟨whole, .array _ hitems, hend⟩
  | @object ms s hs =>
      rw [List.length_cons] at hfuel
      obtain ⟨whole, hmembers, hend⟩ :=
        hs.shows fuel (by omega) (Cursor.rest_advance hd)
      rw [Cursor.here, tokenAt_sign .openBrace (by decide) hd, value]
      exact ⟨whole, .object _ hmembers, hend⟩

theorem WrittenItems.shows {first : Bool} {vs : List Value} {s : Text}
    (h : WrittenItems first vs s) (fuel : Nat) (hfuel : 4 * s.length + 3 ≤ fuel) {c : Cursor}
    {rest : Text} (hc : c.rest = s ++ rest) :
    ∃ whole, ShowsItems whole vs (items fuel first c).1 ∧
      (whole = true → (items fuel first c).2.rest = rest) := by
  cases h with
  | close hb =>
      obtain ⟨fuel, rfl⟩ : ∃ n, fuel = n + 1 := ⟨fuel - 1, by omega⟩
      rw [List.append_assoc] at hc
      obtain ⟨m, after, heq, hafter⟩ := items_close hb hc fuel
      rw [heq]
      exact ⟨true, .close m, fun _ => hafter⟩
  | @item _ lead s r v vs hlead head tail =>
      obtain ⟨fuel, rfl⟩ : ∃ n, fuel = n + 2 := ⟨fuel - 2, by omega⟩
      have hrest : c.rest = lead ++ (s ++ (r ++ rest)) := by
        rw [hc]
        simp only [List.append_assoc]
      have hpos := head.length_pos
      simp only [List.length_append] at hfuel
      obtain ⟨d, hd, hitems⟩ := items_lead hlead head.dropWhile_isBlank
        (fun d hd => head.startsValue hd) hrest (fuel + 1)
      obtain ⟨whole, hvalue, hafter⟩ := head.shows fuel (by omega) hd
      rw [hitems, item_succ]
      cases whole with
      | false => exact ⟨false, .last _ hvalue, fun h => nomatch h⟩
      | true =>
          obtain ⟨whole, htail, hend⟩ := tail.shows fuel (by omega) (hafter rfl)
          exact ⟨whole, .item _ hvalue htail, hend⟩

theorem WrittenMembers.shows {first : Bool} {ms : List (String × Value)} {s : Text}
    (h : WrittenMembers first ms s) (fuel : Nat) (hfuel : 4 * s.length + 3 ≤ fuel) {c : Cursor}
    {rest : Text} (hc : c.rest = s ++ rest) :
    ∃ whole, ShowsMembers whole ms (members fuel first c).1 ∧
      (whole = true → (members fuel first c).2.rest = rest) := by
  cases h with
  | close hb =>
      obtain ⟨fuel, rfl⟩ : ∃ n, fuel = n + 1 := ⟨fuel - 1, by omega⟩
      rw [List.append_assoc] at hc
      obtain ⟨m, after, heq, hafter⟩ := members_close hb hc fuel
      rw [heq]
      exact ⟨true, .close m, fun _ => hafter⟩
  | @member _ lead k b b' s r key v ms hlead hkey hb hb' head tail =>
      obtain ⟨fuel, rfl⟩ : ∃ n, fuel = n + 3 := ⟨fuel - 3, by omega⟩
      have hpos := head.length_pos
      have hrest : c.rest = lead ++ ('"' :: (k ++ (b ++ (':' :: (b' ++ (s ++ (r ++ rest))))))) := by
        rw [hc]
        simp only [List.append_assoc, List.cons_append]
      simp only [List.length_append, List.length_cons] at hfuel
      obtain ⟨d, c₁, hc₁, hmembers⟩ := members_lead hlead hkey hrest (fuel + 2)
      obtain ⟨e, he, hcolon⟩ := memberValue_colon hb hb' head.dropWhile_isBlank hc₁ fuel
      obtain ⟨whole, hvalue, hafter⟩ := head.shows fuel (by omega) he
      rw [hmembers, member_succ, hcolon]
      cases whole with
      | false => exact ⟨false, .last _ _ _ hvalue, fun h => nomatch h⟩
      | true =>
          obtain ⟨whole, htail, hend⟩ := tail.shows (fuel + 1) (by omega) (hafter rfl)
          exact ⟨whole, .member _ _ _ hvalue htail, hend⟩

end

theorem tokenAt_end {d : Cursor} (hd : d.rest = []) : tokenAt d = (.endOfText, d) := by
  rw [tokenAt, hd]

/-- **JSON is read as it is written.** The root of the document shows the value that the text writes,
and if it shows all of it there is nothing behind it. -/
theorem document_shows {t : String} {v : Value} (h : Writes t.toList v) :
    ∃ whole, Shows whole v (document t).root ∧ (whole = true → (document t).tail = none) := by
  obtain ⟨hbefore, hs, hafter, htext⟩ := h
  obtain ⟨d, hd, hlexeme⟩ := Cursor.exists_lexeme_eq (c := .start t.toList) hbefore
    hs.dropWhile_isBlank htext
  have hlength := congrArg List.length htext
  simp only [List.length_append] at hlength
  obtain ⟨whole, hroot, hrest⟩ := hs.shows (4 * t.toList.length + 4) (by omega) hd
  rw [← hlexeme] at hroot hrest
  rw [document]
  dsimp only
  refine ⟨whole, hroot, fun hwhole => ?_⟩
  obtain ⟨e, he, hend⟩ := Cursor.exists_lexeme_eq hafter rfl
    ((hrest hwhole).trans (List.append_nil _).symm)
  have htoken : (value (4 * t.toList.length + 4) (Cursor.start t.toList).lexeme).2.lexeme.token =
      .endOfText := by
    rw [hend, Cursor.here, tokenAt_end he]
  exact if_pos htoken

end MaskedInput.Json
