/-! The command line. Arguments are read in order, and the first that asks for help or the version,
or that is wrong, decides. -/

namespace MaskedInput

/-- The options that take a value. -/
inductive ValueOption where
  | mask
  | preset
  | label
  | config
  deriving Repr, DecidableEq

namespace ValueOption

def all : List ValueOption := [.mask, .preset, .label, .config]

def name : ValueOption → String
  | .mask => "mask"
  | .preset => "preset"
  | .label => "label"
  | .config => "config"

/-- The letter that stands for the option. -/
def letter : ValueOption → Char
  | .mask => 'm'
  | .preset => 'p'
  | .label => 'l'
  | .config => 'c'

/-- A path may not be empty. -/
def allows (o : ValueOption) (value : String) : Bool := o ≠ .config || value ≠ ""

end ValueOption

/-- The options that were given. -/
structure Options where
  values : List (ValueOption × String) := []
  caseSensitive : Bool := false
  deriving Repr, DecidableEq

namespace Options

def get? (o : Options) (option : ValueOption) : Option String := o.values.lookup option

end Options

inductive UsageError where
  | unknownArgument (argument : String)
  | missingValue (option : ValueOption)
  | unexpectedValue (flag : String)
  | emptyValue (option : ValueOption)
  | repeated (name : String)
  | conflict (first second : ValueOption)
  deriving Repr, DecidableEq

inductive Request where
  | run (options : Options)
  | help
  | version
  deriving Repr, DecidableEq

namespace CommandLine

/-- What one argument comes to. -/
inductive Step where
  | options (options : Options)
  | wants (option : ValueOption)
  | request (request : Request)
  | positionals

def setValue (o : Options) (option : ValueOption) (value : String) : Except UsageError Options :=
  if (o.get? option).isSome then .error (.repeated option.name)
  else if !option.allows value then .error (.emptyValue option)
  else .ok { o with values := o.values ++ [(option, value)] }

/-- An argument that starts with two dashes, from after them. -/
def long (o : Options) (argument : List Char) : Except UsageError Step := do
  let name := String.ofList (argument.takeWhile (· ≠ '='))
  let value? := match argument.dropWhile (· ≠ '=') with
    | [] => none
    | _ :: value => some (String.ofList value)
  match ValueOption.all.find? (·.name = name), value? with
  | some option, some value => return .options (← setValue o option value)
  | some option, none => return .wants option
  | none, value? =>
    let flag (step : Except UsageError Step) : Except UsageError Step :=
      if value?.isSome then .error (.unexpectedValue name) else step
    match name with
    | "case-sensitive" =>
      flag (if o.caseSensitive then .error (.repeated name)
        else .ok (.options { o with caseSensitive := true }))
    | "help" => flag (.ok (.request .help))
    | "version" => flag (.ok (.request .version))
    | _ => throw (.unknownArgument ("--" ++ String.ofList argument))

/-- An argument that starts with one dash, from after it. No letter but those of the options that
take a value lets others follow. -/
def short (o : Options) : List Char → Except UsageError Step
  | 'h' :: _ => .ok (.request .help)
  | 'V' :: _ => .ok (.request .version)
  | letter :: rest =>
    match ValueOption.all.find? (·.letter = letter) with
    | none => .error (.unknownArgument (String.ofList ['-', letter]))
    | some option =>
      match rest with
      | [] => .ok (.wants option)
      | '=' :: value => return .options (← setValue o option (String.ofList value))
      | value => return .options (← setValue o option (String.ofList value))
  | [] => .error (.unknownArgument "-")

def argument (o : Options) (a : String) : Except UsageError Step :=
  match a.toList with
  | ['-', '-'] => .ok .positionals
  | '-' :: '-' :: rest => long o rest
  | '-' :: rest => short o rest
  | _ => .error (.unknownArgument a)

/-- Whether an argument cannot be the value of an option before it. -/
def isOption (a : String) : Bool := a.toList.head? = some '-' && 1 < a.length

/-- Options that exclude each other. -/
def conflicts : List (ValueOption × ValueOption) :=
  [(.mask, .preset), (.mask, .config), (.preset, .config)]

def finish (o : Options) : Except UsageError Request :=
  match conflicts.find? fun c => (o.get? c.1).isSome && (o.get? c.2).isSome with
  | some (a, b) => .error (.conflict a b)
  | none => .ok (.run o)

def parseFrom (o : Options) : List String → Except UsageError Request
  | [] => finish o
  | a :: rest => do
    match ← argument o a, rest with
    | .options o, rest => parseFrom o rest
    | .request r, _ => return r
    | .positionals, [] => finish o
    | .positionals, b :: _ => throw (.unknownArgument b)
    | .wants option, [] => throw (.missingValue option)
    | .wants option, value :: rest =>
      if isOption value then throw (.missingValue option)
      else parseFrom (← setValue o option value) rest

def parse (arguments : List String) : Except UsageError Request := parseFrom {} arguments

/-! ### Texts -/

def version : String := "fieldmask 0.1.0\n"

def help : String :=
  "Prompt for masked values in the terminal and print them as JSON\n\n" ++
  "Usage: fieldmask [OPTIONS]\n\n" ++
  "Options:\n" ++
  "  -m, --mask <MASK>      " ++
  "Mask definition: 9 digit, a lowercase, A uppercase, * any, others literal\n" ++
  "  -p, --preset <PRESET>  Named mask preset\n" ++
  "  -l, --label <LABEL>    Label shown in front of the field [default: Value]\n" ++
  "      --case-sensitive   Match letter placeholders without folding case\n" ++
  "  -c, --config <CONFIG>  YAML or JSON file listing the fields to prompt for\n" ++
  "  -h, --help             Print help\n" ++
  "  -V, --version          Print version\n"

end CommandLine

def UsageError.message : UsageError → String
  | .unknownArgument a => "unexpected argument '" ++ a ++ "' found"
  | .missingValue o | .emptyValue o =>
    "a value is required for '--" ++ o.name ++ "' but none was supplied"
  | .unexpectedValue f => "unexpected value for '--" ++ f ++ "' found; no more were expected"
  | .repeated n => "the argument '--" ++ n ++ "' cannot be used multiple times"
  | .conflict a b => "the argument '--" ++ a.name ++ "' cannot be used with '--" ++ b.name ++ "'"

end MaskedInput
