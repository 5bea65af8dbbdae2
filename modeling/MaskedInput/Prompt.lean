import MaskedInput.Session
import MaskedInput.Terminal.Event
import MaskedInput.Terminal.Screen

/-! A prompt: one masked line of input, driven by keys. A key edits the line, moves the caret,
submits or cancels; then the session lays the line out anew. A refused submission shows an error,
which stays until the line is edited. -/

namespace MaskedInput

structure Prompt where
  id : String
  label : String
  buffer : LineBuffer
  session : Session
  /-- Whether a submission was refused and nothing was edited since. -/
  refused : Bool
  deriving Repr

/-- What a key leaves a prompt in. -/
inductive PromptState where
  | editing
  | submitted (value : Text)
  | cancelled
  deriving Repr, DecidableEq

namespace Prompt

def refusal : String := "Invalid or incomplete value"

def new (id label : String) (mask : Mask) (options : MaskOptions) : Prompt :=
  ⟨id, label, .empty, .attach LineBuffer.empty mask options, false⟩

/-- Starts the line with a text, laid out on the mask. -/
def withDefault (p : Prompt) (value : Text) : Prompt :=
  let buffer := LineBuffer.ofText (p.session.mask.format p.session.options value)
  { p with buffer, session := .attach buffer p.session.mask p.session.options }

def value (p : Prompt) : Text := p.buffer.text

def error? (p : Prompt) : Option String := if p.refused then some refusal else none

/-! ### Keys -/

/-- What a key asks of a prompt. -/
inductive Action where
  | cancel
  | submit
  | insert (c : Char)
  | clear
  | backspace
  | delete
  | left
  | right
  | home
  | toEnd
  | nothing
  deriving Repr, DecidableEq

def Action.ofKey (k : Key) : Action :=
  match k.code with
  | .char c =>
    if k.isControl then
      match c with
      | 'c' => .cancel
      | 'u' => .clear
      | _ => .nothing
    else .insert c
  | .backspace => .backspace
  | .delete => .delete
  | .left => .left
  | .right => .right
  | .home => .home
  | .toEnd => .toEnd
  | .escape => .cancel
  | .enter => .submit
  | .other => .nothing

/-- An edit of the line; `none` when it finds nothing to do. -/
def Action.edit? (b : LineBuffer) : Action → Option LineBuffer
  | .insert c => some (b.insert c)
  | .clear => some b.clear
  | .backspace => b.backspace?
  | .delete => b.delete?
  | _ => none

/-- A move of the caret. -/
def Action.move (b : LineBuffer) : Action → LineBuffer
  | .left => b.left?.getD b
  | .right => b.right?.getD b
  | .home => b.home
  | .toEnd => b.toEnd
  | _ => b

/-- Tells the session about the line. -/
def notify (p : Prompt) : Prompt :=
  let (_, session, buffer) := p.session.notify p.buffer
  { p with session, buffer }

/-- Whether the line may be submitted: it is empty, or complete for the mask. -/
def acceptable (p : Prompt) : Bool :=
  p.value.isEmpty || p.session.mask.isComplete p.session.options p.value

def act (p : Prompt) (a : Action) : PromptState × Prompt :=
  match a with
  | .cancel => (.cancelled, p)
  | .submit =>
    if p.acceptable then (.submitted p.value, p) else (.editing, { p with refused := true })
  | a =>
    match a.edit? p.buffer with
    | some buffer => (.editing, notify { p with buffer, refused := false })
    | none => (.editing, notify { p with buffer := a.move p.buffer })

def press (p : Prompt) (k : Key) : PromptState × Prompt := p.act (.ofKey k)

/-! ### Drawing -/

def lead (p : Prompt) : Text := ("? " ++ p.label ++ ": ").toList

/-- The part of the mask that the line does not reach, with a blank for every placeholder. -/
def hint (p : Prompt) : Text :=
  (p.session.mask.pattern.tokens.drop p.value.length).map fun token => token.literal?.getD '_'

def spans (p : Prompt) : List Span :=
  [⟨p.lead, some .cyan⟩, ⟨p.value, none⟩]
    ++ (if p.hint.isEmpty then [] else [⟨p.hint, some .darkGrey⟩])
    ++ (p.error?.map fun e => Span.mk ("  " ++ e).toList (some .red)).toList

def cursorColumn (p : Prompt) : Nat :=
  p.lead.width + Text.width (p.value.take p.buffer.caret)

def line (p : Prompt) : Line := ⟨p.spans, p.cursorColumn⟩

/-! ### Reports -/

/-- What the session reports when a key is pressed; keys that end the prompt do not reach it. -/
def pressLog (p : Prompt) (k : Key) : List LogEntry :=
  match Action.ofKey k with
  | .cancel | .submit => []
  | a => [p.session.notifyLog ((a.edit? p.buffer).getD (a.move p.buffer))]

end Prompt

end MaskedInput
