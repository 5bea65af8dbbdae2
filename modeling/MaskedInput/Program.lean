import MaskedInput.CommandLine
import MaskedInput.Config.Load
import MaskedInput.Json.Text

/-! The program: from the arguments to the prompts, from the prompts to the answers. Everything that
can fail does so before the terminal is touched. -/

namespace MaskedInput

/-- What a run leaves behind. -/
structure Report where
  exitCode : Nat
  output : String
  complaint : String
  deriving Repr, DecidableEq

namespace Report

def success (output : String) : Report := ⟨0, output, ""⟩

def failure (f : Failure) : Report := ⟨1, "", s!"Error: {f.message}\n"⟩

def misuse (e : UsageError) : Report :=
  ⟨2, "", "error: " ++ e.message ++ "\n\nUsage: fieldmask [OPTIONS]\n\n" ++
    "For more information, try '--help'.\n"⟩

end Report

namespace Options

/-- The mask of a prompt that no option says anything about. -/
def openMask : Mask := .compile (List.replicate 32 '*')

def mask (o : Options) : Except Failure Mask :=
  match o.get? .mask, o.get? .preset with
  | some definition, _ => .ok (.compile definition.toList)
  | none, some name => Mask.named name
  | none, none => .ok openMask

/-- The prompts that some options ask for: those of a configuration, or a single one. -/
def prompts (o : Options) (read : FileReader) : Except Failure (List Prompt) :=
  match o.get? .config with
  | some path => (Config.load read path).bind Config.prompts
  | none => do
    let label := (o.get? .label).getD "Value"
    return [Prompt.new "value" label (← o.mask) ⟨o.caseSensitive⟩]

end Options

namespace Transcript

/-- What was written in the course of a run. -/
def written (t : Transcript) : String := String.join (t.drawings.map Drawing.sequence)

/-- What follows the drawings. -/
def epilogue (t : Transcript) : String :=
  match t.ending with
  | .answered answers => Json.ofAnswers answers ++ "\n"
  | .cancelled | .waiting => ""

def output (t : Transcript) : String := t.written ++ t.epilogue

end Transcript

namespace Program

/-- What the arguments come to before the terminal is used. -/
inductive Start where
  | finished (report : Report)
  | asking (prompts : List Prompt)

def start (arguments : List String) (read : FileReader) : Start :=
  match CommandLine.parse arguments with
  | .error e => .finished (.misuse e)
  | .ok .help => .finished (.success CommandLine.help)
  | .ok .version => .finished (.success CommandLine.version)
  | .ok (.run o) =>
    match o.prompts read with
    | .error f => .finished (.failure f)
    | .ok prompts => .asking prompts

/-- A whole run. Without a terminal there are no signals. A run that the signals do not end is
reported as far as it came. -/
def run (arguments : List String) (read : FileReader) (signals : Option (List Signal)) : Report :=
  match start arguments read with
  | .finished report => report
  | .asking prompts =>
    match signals with
    | none => .failure .noTerminal
    | some signals => .success (Form.run prompts (Signal.events signals)).output

end Program

end MaskedInput
