import MaskedInput.Program
import MaskedInput.Terminal.Keyboard

/-! The program at a terminal, which is expected to send every key as it is pressed. Input is read
and drawings are written as they come; what they are is settled elsewhere. -/

namespace MaskedInput.Main

def readFault : IO.Error → ReadFault
  | .inappropriateType _ code _ =>
    if code = 20 then .notAFolder else .folder
  | _ => .missing

/-- The contents of a file, or why there are none. -/
def contents (path : String) : IO (Except ReadFault String) := do
  try
    let bytes ← IO.FS.readBinFile path
    match String.fromUTF8? bytes with
    | some text => return .ok text
    | none => return .error .notUtf8
  catch e => return .error (readFault e)

/-- A reader for the one file that the arguments name, if they name one. -/
def reader (arguments : List String) : IO FileReader := do
  match CommandLine.parse arguments with
  | .ok (.run o) =>
    match o.get? .config with
    | some path =>
      let result ← contents path
      return fun _ => result
    | none => return fun _ => .error .missing
  | _ => return fun _ => .error .missing

def present (report : Report) : IO UInt32 := do
  (← IO.getStdout).putStr report.output
  (← IO.getStderr).putStr report.complaint
  return report.exitCode.toUInt32

/-- Runs a form on the keys that come in, and draws what they bring. -/
partial def converse (prompts : List Prompt) (signals : List Signal) (drawn : Nat) : IO Unit := do
  let t := Form.run prompts (Signal.events signals)
  let out ← IO.getStdout
  for d in t.drawings.drop drawn do
    out.putStr d.sequence
  out.putStr t.epilogue
  out.flush
  if t.ending = .waiting then
    let bytes ← (← IO.getStdin).read 256
    unless bytes.isEmpty do
      let typed := Keyboard.keys ((String.fromUTF8? bytes).getD "").toList
      converse prompts (signals ++ typed.map .press) t.drawings.length

end MaskedInput.Main

def main (arguments : List String) : IO UInt32 := do
  let read ← MaskedInput.Main.reader arguments
  match MaskedInput.Program.start arguments read with
  | .finished report => MaskedInput.Main.present report
  | .asking prompts =>
    if ← (← IO.getStdin).isTty then
      MaskedInput.Main.converse prompts [] 0
      return 0
    else MaskedInput.Main.present (.failure .noTerminal)
