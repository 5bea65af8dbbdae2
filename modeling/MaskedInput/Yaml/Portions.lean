import MaskedInput.Yaml.Cursor

/-! The portions in which a text is taken. A character that may not stand in a text spoils the whole
portion that holds it, and what comes before that portion can still be read. -/

namespace MaskedInput.Yaml

/-- The greatest size of a portion, in octets. -/
def portionSize : Nat := 16384

/-- The portions from inside one on, of which the characters so far are given backwards and with
their size. Each portion holds as many whole characters as it can. -/
def portionsFrom (size : Nat) (portion : Text) : Text → List Text
  | [] => [portion.reverse]
  | c :: rest =>
    if size + c.utf8Size ≤ portionSize then portionsFrom (size + c.utf8Size) (c :: portion) rest
    else portion.reverse :: portionsFrom c.utf8Size [c] rest

def portions (text : Text) : List Text := portionsFrom 0 [] text

/-- Whether all characters of a portion may stand in a text. -/
def isSound (portion : Text) : Bool := portion.all isAllowed

end MaskedInput.Yaml
