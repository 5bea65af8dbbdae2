import MaskedInput.Mask.BracketClass
import MaskedInput.Mask.Token

/-! Compiled masks. A pattern holds the tokens of a definition, the alphabet of its literals, and a
matcher for that alphabet, read from its bracket class. Two patterns are equal when their tokens
are. -/

namespace MaskedInput

structure Pattern where
  tokens : List Token
  separators : Alphabet
  /-- What stripping goes by; without it the alphabet itself decides. -/
  matcher : Option BracketClass
  deriving Repr

namespace Pattern

def matcherOf (separators : Alphabet) : Option BracketClass :=
  if separators.isEmpty then none else BracketClass.parse? (BracketClass.written separators)

/-- One token per character, in order. -/
def compile (definition : Text) : Pattern :=
  let tokens := definition.map Token.ofChar
  let separators := Alphabet.ofList (tokens.filterMap Token.literal?)
  ⟨tokens, separators, matcherOf separators⟩

instance : BEq Pattern := ⟨fun p q => p.tokens == q.tokens⟩

def placeholderCount (p : Pattern) : Nat := p.tokens.countP (!·.isSeparator)

def isEmpty (p : Pattern) : Bool := p.tokens.isEmpty

/-- The text without the characters of the alphabet, wherever they stand. -/
def strip (p : Pattern) (raw : Text) : Text :=
  match p.matcher with
  | some m => raw.filter (!m.contains ·)
  | none => raw.filter (!p.separators.contains ·)

@[simp] theorem tokens_compile (d : Text) : (compile d).tokens = d.map Token.ofChar := rfl

theorem mem_separators_compile {d : Text} {c : Char} :
    c ∈ (compile d).separators ↔ .separator c ∈ (compile d).tokens := by
  simp only [compile, Alphabet.mem_ofList, List.mem_filterMap]
  constructor
  · rintro ⟨t, mem, lit⟩
    cases t with
    | separator l => cases lit; exact mem
    | placeholder k => cases lit
  · exact fun mem => ⟨_, mem, rfl⟩

end Pattern

end MaskedInput
