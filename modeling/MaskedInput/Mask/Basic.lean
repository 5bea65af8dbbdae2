import MaskedInput.Mask.Caret

/-! Masks: a definition together with the pattern compiled from it, the named masks, and when a
value is complete. -/

namespace MaskedInput

structure Mask where
  definition : Text
  pattern : Pattern
  deriving Repr, BEq

/-- How a mask is matched. -/
structure MaskOptions where
  caseSensitive : Bool
  deriving Repr, DecidableEq

namespace Mask

def compile (definition : Text) : Mask := ⟨definition, .compile definition⟩

def format (m : Mask) (options : MaskOptions) (raw : Text) : Text :=
  (m.pattern.format options.caseSensitive raw).value

/-- A value is complete when laying it out fills every placeholder and gives the value back. -/
def isComplete (m : Mask) (options : MaskOptions) (value : Text) : Bool :=
  let f := m.pattern.format options.caseSensitive value
  f.filled = m.pattern.placeholderCount && f.value = value

/-! ### Presets -/

def phoneUs : Mask := compile "(999) 999-9999".toList

def zipUs : Mask := compile "99999".toList

def dateDdMmYyyy : Mask := compile "99/99/9999".toList

def timeHhMm : Mask := compile "99:99".toList

def cpf : Mask := compile "999.999.999-99".toList

/-- The definitions that go by a name. -/
def presets : List (String × String) :=
  [("phone_us", "(999) 999-9999"), ("zip_us", "99999"), ("date_dd_mm_yyyy", "99/99/9999"),
   ("time_hh_mm", "99:99"), ("cpf", "999.999.999-99")]

def presetNames : List String := presets.map Prod.fst

def preset? (name : String) : Option Mask :=
  (presets.lookup name).map fun definition => compile definition.toList

/-- Each mask that has a name of its own is the one that is found by it. -/
theorem map_preset?_presetNames :
    presetNames.map preset? =
      [some phoneUs, some zipUs, some dateDdMmYyyy, some timeHhMm, some cpf] := rfl

@[simp] theorem pattern_compile (d : Text) : (compile d).pattern = .compile d := rfl

@[simp] theorem definition_compile (d : Text) : (compile d).definition = d := rfl

end Mask

end MaskedInput
