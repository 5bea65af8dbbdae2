import MaskedInput.Prompt

/-! A form asks its prompts one after the other. The events of the terminal go to the present prompt
until it is submitted or cancelled; every event that is read is answered with a drawing. -/

namespace MaskedInput

/-- Submitted texts by the identity of their prompt, in ascending order of identities. -/
abbrev Answers := List (String × Text)

namespace Answers

/-- Sets the text of an identity, in the place of an earlier one. -/
def set (id : String) (text : Text) : Answers → Answers
  | [] => [(id, text)]
  | (other, old) :: rest =>
    if id = other then (id, text) :: rest
    else if id < other then (id, text) :: (other, old) :: rest
    else (other, old) :: set id text rest

end Answers

/-- How a form ends, if the events that there are end it. -/
inductive Ending where
  | answered (answers : Answers)
  | cancelled
  | waiting
  deriving Repr, DecidableEq

/-- A run of a form: what it drew, and how it ended. -/
structure Transcript where
  drawings : List Drawing
  ending : Ending
  deriving Repr, DecidableEq

namespace Transcript

/-- The run that draws something first. -/
def draw (d : Drawing) (t : Transcript) : Transcript := { t with drawings := d :: t.drawings }

end Transcript

namespace Prompt

/-- What an event leaves a prompt in. -/
def handle (p : Prompt) : Event → PromptState × Prompt
  | .key k => p.press k
  | .resize => (.editing, p)

end Prompt

namespace Form

/-- Runs a prompt that is on the screen, and the prompts after it. -/
def ask (answers : Answers) (prompt : Prompt) (later : List Prompt) : List Event → Transcript
  | [] => ⟨[], .waiting⟩
  | event :: events =>
    let (state, prompt) := prompt.handle event
    .draw (.line prompt.line) <|
      match state with
      | .editing => ask answers prompt later events
      | .cancelled => ⟨[.lineBreak], .cancelled⟩
      | .submitted value =>
        let answers := answers.set prompt.id value
        .draw .lineBreak <|
          match later with
          | [] => ⟨[], .answered answers⟩
          | next :: later => .draw (.line next.line) (ask answers next later events)

def run (prompts : List Prompt) (events : List Event) : Transcript :=
  match prompts with
  | [] => ⟨[], .answered []⟩
  | first :: later => .draw (.line first.line) (ask [] first later events)

end Form

end MaskedInput
