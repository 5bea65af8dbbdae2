import MaskedInput.Program
import MaskedInput.Proofs.Editing
import MaskedInput.Proofs.JsonWriting
import MaskedInput.Proofs.Lookup
import Mathlib.Data.List.Infix

/-! The turns of a form. A prompt has its turn from the moment it is shown to the key that submits
or cancels it, and gets the keys of its turn and no others. The turns of the prompts follow one
another through the events, so a run is told by the events of each turn (`proceed_of_played`), and
every run that ends can be told so (`exists_played`). -/

namespace MaskedInput

/-! ### A prompt and its events -/

namespace Event

def key? : Event → Option Key
  | .key k => some k
  | .resize => none

/-- The keys among some events, in order. -/
def keys (events : List Event) : List Key := events.filterMap key?

theorem keys_append (events more : List Event) : keys (events ++ more) = keys events ++ keys more :=
  List.filterMap_append

end Event

namespace Prompt

variable {p : Prompt} {e : Event} {k : Key} {value : Text}

/-- Some keys neither submit nor cancel a prompt. -/
def EditsAlong (p : Prompt) (keys : List Key) : Prop :=
  ∀ past k later, keys = past ++ k :: later → ((p.after past).press k).1 = .editing

/-- What is drawn of a prompt that is given some events: a line for each beginning of them. -/
def screens (p : Prompt) (events : List Event) : List Drawing :=
  events.inits.map fun past => .line (p.after (Event.keys past)).line

theorem editsAlong_nil (p : Prompt) : p.EditsAlong [] := by
  intro past k later h
  simp at h

theorem editsAlong_cons_iff {keys : List Key} :
    p.EditsAlong (k :: keys) ↔ (p.press k).1 = .editing ∧ (p.press k).2.EditsAlong keys := by
  constructor
  · intro h
    refine ⟨h [] k keys rfl, fun past j later hkeys => ?_⟩
    exact h (k :: past) j later (congrArg (k :: ·) hkeys)
  · rintro ⟨hfirst, hrest⟩ past j later h
    cases past with
    | nil =>
        cases h
        exact hfirst
    | cons i past =>
        cases h
        exact hrest past j later rfl

theorem after_keys_cons (p : Prompt) (e : Event) (events : List Event) :
    p.after (Event.keys (e :: events)) = (p.handle e).2.after (Event.keys events) := by
  cases e with
  | key k => rfl
  | resize => rfl

theorem editsAlong_keys_cons_iff {events : List Event} :
    p.EditsAlong (Event.keys (e :: events)) ↔
      (p.handle e).1 = .editing ∧ (p.handle e).2.EditsAlong (Event.keys events) := by
  cases e with
  | key k => exact editsAlong_cons_iff
  | resize => exact (and_iff_right rfl).symm

theorem screens_cons (p : Prompt) (e : Event) (events : List Event) :
    p.screens (e :: events) = .line p.line :: (p.handle e).2.screens events := by
  rw [screens, List.inits_cons, List.map_cons, List.map_map, screens]
  refine congrArg₂ List.cons rfl (List.map_congr_left fun past _ => ?_)
  exact congrArg (Drawing.line ·.line) (p.after_keys_cons e past)

/-- Only the whole of a prompt's line is submitted, and the prompt is left as it was. -/
theorem press_of_submitted (h : (p.press k).1 = .submitted value) :
    value = p.value ∧ (p.press k).2 = p ∧ p.acceptable = true := by
  rw [press] at h ⊢
  rcases p.act_cases (Action.ofKey k) with
    ⟨-, hact⟩ | ⟨-, haccept, hact⟩ | ⟨-, -, hact⟩ | ⟨b, -, hact⟩ | ⟨-, -, -, hact⟩
  · rw [hact] at h
    cases h
  · rw [hact] at h ⊢
    cases h
    exact ⟨rfl, rfl, haccept⟩
  · rw [hact] at h
    cases h
  · rw [hact] at h
    cases h
  · rw [hact] at h
    cases h

/-! ### What stays as it is -/

/-- Two states of one prompt. -/
structure SamePrompt (p q : Prompt) : Prop where
  id_eq : q.id = p.id
  mask_eq : q.session.mask = p.session.mask
  options_eq : q.session.options = p.session.options

theorem SamePrompt.notify (p : Prompt) (b : LineBuffer) (refused : Bool) :
    SamePrompt p (notify { p with buffer := b, refused }) := by
  by_cases h : b.text = p.session.lastValue
  · rw [notify_of_eq h]
    exact ⟨rfl, rfl, rfl⟩
  · rw [notify_of_ne h]
    exact ⟨rfl, rfl, rfl⟩

theorem SamePrompt.press (p : Prompt) (k : Key) : SamePrompt p (p.press k).2 := by
  rw [Prompt.press]
  rcases p.act_cases (Action.ofKey k) with
    ⟨-, hact⟩ | ⟨-, -, hact⟩ | ⟨-, -, hact⟩ | ⟨b, -, hact⟩ | ⟨-, -, -, hact⟩
  · rw [hact]
    exact ⟨rfl, rfl, rfl⟩
  · rw [hact]
    exact ⟨rfl, rfl, rfl⟩
  · rw [hact]
    exact ⟨rfl, rfl, rfl⟩
  · rw [hact]
    exact .notify p b false
  · rw [hact]
    exact .notify p _ p.refused

theorem SamePrompt.after (p : Prompt) (keys : List Key) : SamePrompt p (p.after keys) := by
  induction keys generalizing p with
  | nil => exact ⟨rfl, rfl, rfl⟩
  | cons k keys ih =>
      have hfirst := SamePrompt.press p k
      have hrest := ih (p.press k).2
      exact ⟨hrest.id_eq.trans hfirst.id_eq, hrest.mask_eq.trans hfirst.mask_eq,
        hrest.options_eq.trans hfirst.options_eq⟩

end Prompt

/-! ### Turns -/

/-- A prompt and the events that it is given. -/
structure Turn where
  prompt : Prompt
  events : List Event

namespace Turn

variable {t : Turn} {p : Prompt} {e : Event} {events : List Event} {s : PromptState}

/-- The last event is a key that leads to a state, and no key before it submits or cancels. -/
def EndsIn (t : Turn) (s : PromptState) : Prop :=
  ∃ past k, t.events = past ++ [.key k] ∧ t.prompt.EditsAlong (Event.keys past) ∧
    ((t.prompt.after (Event.keys past)).press k).1 = s

/-- The line that the prompt has in the end. -/
def value (t : Turn) : Text := (t.prompt.after (Event.keys t.events)).value

def Submitted (t : Turn) : Prop := t.EndsIn (.submitted t.value)

def Cancelled (t : Turn) : Prop := t.EndsIn .cancelled

def drawings (t : Turn) : List Drawing := t.prompt.screens t.events ++ [.lineBreak]

theorem EndsIn.cons (he : (p.handle e).1 = .editing)
    (h : EndsIn ⟨(p.handle e).2, events⟩ s) : EndsIn ⟨p, e :: events⟩ s := by
  obtain ⟨past, k, hevents, hpast, hk⟩ := h
  refine ⟨e :: past, k, congrArg (e :: ·) hevents, ?_, ?_⟩
  · exact Prompt.editsAlong_keys_cons_iff.2 ⟨he, hpast⟩
  · rw [Prompt.after_keys_cons]
    exact hk

theorem value_cons (p : Prompt) (e : Event) (events : List Event) :
    value ⟨p, e :: events⟩ = value ⟨(p.handle e).2, events⟩ :=
  congrArg Prompt.value (p.after_keys_cons e events)

theorem EndsIn.value_eq {v : Text} (h : t.EndsIn (.submitted v)) : v = t.value := by
  obtain ⟨past, k, hevents, -, hk⟩ := h
  obtain ⟨hvalue, hsame, -⟩ := Prompt.press_of_submitted hk
  rw [value, hevents, Event.keys_append, Prompt.after_append]
  exact hvalue.trans (congrArg Prompt.value hsame.symm)

theorem EndsIn.submitted {v : Text} (h : t.EndsIn (.submitted v)) : t.Submitted := by
  rw [Submitted, ← h.value_eq]
  exact h

theorem Submitted.acceptable (h : t.Submitted) :
    t.value = [] ∨ t.prompt.session.mask.isComplete t.prompt.session.options t.value = true := by
  obtain ⟨past, k, -, -, hk⟩ := h
  obtain ⟨hvalue, -, haccept⟩ := Prompt.press_of_submitted hk
  have hsame := Prompt.SamePrompt.after t.prompt (Event.keys past)
  rw [Prompt.acceptable, ← hvalue, hsame.mask_eq, hsame.options_eq, Bool.or_eq_true,
    List.isEmpty_iff] at haccept
  exact haccept

/-- Whatever events there are, they leave a prompt on the screen, or begin with its turn. -/
theorem exists_turn (p : Prompt) (events : List Event) :
    p.EditsAlong (Event.keys events) ∨
      ∃ (t : Turn) (rest : List Event), t.prompt = p ∧ events = t.events ++ rest ∧
        (t.Submitted ∨ t.Cancelled) := by
  induction events generalizing p with
  | nil => exact .inl p.editsAlong_nil
  | cons e events ih =>
      by_cases he : (p.handle e).1 = .editing
      · rcases ih (p.handle e).2 with hrest | ⟨⟨q, past⟩, rest, rfl, hevents, hends⟩
        · exact .inl (Prompt.editsAlong_keys_cons_iff.2 ⟨he, hrest⟩)
        · refine .inr ⟨⟨p, e :: past⟩, rest, rfl, congrArg (e :: ·) hevents, ?_⟩
          rw [Submitted, value_cons]
          exact hends.imp (EndsIn.cons he) (EndsIn.cons he)
      · cases e with
        | resize => exact absurd rfl he
        | key k =>
            have hends : EndsIn ⟨p, [.key k]⟩ (p.press k).1 := ⟨[], k, rfl, p.editsAlong_nil, rfl⟩
            refine .inr ⟨⟨p, [.key k]⟩, events, rfl, rfl, ?_⟩
            cases hs : (p.press k).1 with
            | editing => exact absurd hs he
            | submitted v =>
                rw [hs] at hends
                exact .inl hends.submitted
            | cancelled =>
                rw [hs] at hends
                exact .inr hends

end Turn

/-! ### Drawings of a run -/

namespace Transcript

/-- The run that draws some things first. -/
def drawAll (ds : List Drawing) (t : Transcript) : Transcript :=
  { t with drawings := ds ++ t.drawings }

theorem drawAll_append (ds more : List Drawing) (t : Transcript) :
    t.drawAll (ds ++ more) = (t.drawAll more).drawAll ds :=
  congrArg (Transcript.mk · t.ending) (List.append_assoc ds more t.drawings)

end Transcript

/-! ### Answers by turns -/

namespace Turn

variable {turns : List Turn} {answers : Answers} {id : String}

/-- The answers to some turns, on top of earlier ones. -/
def collected (turns : List Turn) (answers : Answers) : Answers :=
  turns.foldl (fun answers t => answers.set t.prompt.id t.value) answers

theorem ascending_collected (turns : List Turn) (h : (answers.map Prod.fst).Pairwise (· < ·)) :
    ((collected turns answers).map Prod.fst).Pairwise (· < ·) := by
  induction turns generalizing answers with
  | nil => exact h
  | cons t turns ih => exact ih (Answers.ascending_set h)

theorem mem_ids_collected :
    id ∈ (collected turns answers).map Prod.fst ↔
      id ∈ turns.map (·.prompt.id) ∨ id ∈ answers.map Prod.fst := by
  induction turns generalizing answers with
  | nil => simp [collected]
  | cons t turns ih =>
      have hset : id ∈ (answers.set t.prompt.id t.value).map Prod.fst ↔
          id = t.prompt.id ∨ id ∈ answers.map Prod.fst := Answers.mem_ids_set
      rw [collected, List.foldl_cons, ← collected, ih, hset, List.map_cons, List.mem_cons,
        or_left_comm, or_assoc]

theorem lookup_collected_of_forall_ne (h : ∀ t ∈ turns, t.prompt.id ≠ id) :
    (collected turns answers).lookup id = answers.lookup id := by
  induction turns generalizing answers with
  | nil => rfl
  | cons t turns ih =>
      obtain ⟨ht, hturns⟩ := List.forall_mem_cons.1 h
      have hset := Answers.lookup_set answers t.prompt.id t.value id
      rw [if_neg (Ne.symm ht)] at hset
      exact (ih hturns).trans hset

/-- Later turns of other prompts leave an answer as it is, earlier turns do not matter. -/
theorem lookup_collected {before after : List Turn} {t : Turn}
    (h : ∀ u ∈ after, u.prompt.id ≠ t.prompt.id) :
    (collected (before ++ t :: after) answers).lookup t.prompt.id = some t.value := by
  have happend : collected (before ++ t :: after) answers =
      collected after ((collected before answers).set t.prompt.id t.value) := List.foldl_append
  rw [happend, lookup_collected_of_forall_ne h, Answers.lookup_set, if_pos rfl]

/-- Some answers are those of some turns. Where an identity has several turns, the last one counts,
and every turn leaves a line that is empty or complete for the mask of its prompt. -/
structure Collects (turns : List Turn) (answers : Answers) : Prop where
  ascending : (answers.map Prod.fst).Pairwise (· < ·)
  mem_ids_iff : ∀ id, id ∈ answers.map Prod.fst ↔ id ∈ (turns.map Turn.prompt).map Prompt.id
  lookup_last : ∀ before t after, turns = before ++ t :: after →
    (∀ u ∈ after, u.prompt.id ≠ t.prompt.id) → answers.lookup t.prompt.id = some t.value
  acceptable : ∀ t ∈ turns, t.value = [] ∨
    t.prompt.session.mask.isComplete t.prompt.session.options t.value = true

theorem collects_collected (h : ∀ t ∈ turns, t.Submitted) :
    Collects turns (collected turns []) where
  ascending := ascending_collected turns .nil
  mem_ids_iff id := by
    rw [mem_ids_collected, List.map_map]
    exact or_iff_left List.not_mem_nil
  lookup_last before t after hsplit hafter := by
    rw [hsplit]
    exact lookup_collected hafter
  acceptable t ht := (h t ht).acceptable

end Turn

/-! ### Runs by turns -/

namespace Form

variable {p : Prompt} {k : Key} {e : Event} {answers : Answers} {prompts later : List Prompt}
  {events past last rest : List Event} {turns : List Turn} {t : Turn} {onward : Transcript}

/-- A run from where some prompts have been answered. -/
def proceed (answers : Answers) (prompts : List Prompt) (events : List Event) : Transcript :=
  match prompts with
  | [] => ⟨[], .answered answers⟩
  | first :: later => .draw (.line first.line) (ask answers first later events)

theorem run_eq_proceed (prompts : List Prompt) (events : List Event) :
    Form.run prompts events = proceed [] prompts events := by
  cases prompts with
  | nil => rfl
  | cons first later => rfl

theorem proceed_of_editing (h : (p.handle e).1 = .editing) :
    proceed answers (p :: later) (e :: events) =
      (proceed answers ((p.handle e).2 :: later) events).drawAll [.line p.line] := by
  have hhandle : p.handle e = (.editing, (p.handle e).2) := Prod.ext h rfl
  rw [proceed, ask, hhandle]
  rfl

theorem proceed_of_submitted (answers : Answers) (later : List Prompt) (rest : List Event)
    {value : Text} (h : (p.press k).1 = .submitted value) :
    proceed answers (p :: later) (.key k :: rest) =
      (proceed (answers.set p.id value) later rest).drawAll
        (p.screens [.key k] ++ [.lineBreak]) := by
  obtain ⟨-, hsame, -⟩ := Prompt.press_of_submitted h
  have hhandle : p.handle (.key k) = (.submitted value, p) := Prod.ext h hsame
  have hscreens : p.screens [.key k] = [.line p.line, .line p.line] := by
    rw [Prompt.screens_cons, hhandle]
    rfl
  rw [proceed, ask, hhandle, hscreens]
  cases later with
  | nil => rfl
  | cons next later => rfl

theorem proceed_of_cancelled (answers : Answers) (later : List Prompt) (rest : List Event)
    (h : (p.press k).1 = .cancelled) :
    proceed answers (p :: later) (.key k :: rest) =
      ⟨p.screens [.key k] ++ [.lineBreak], .cancelled⟩ := by
  have hhandle : p.handle (.key k) = (.cancelled, (p.handle (.key k)).2) := Prod.ext h rfl
  rw [proceed, ask, Prompt.screens_cons, hhandle]
  rfl

/-- Editing draws what there is to see and leaves everything else to the prompt it leads to. -/
theorem proceed_edits (h : p.EditsAlong (Event.keys past))
    (hlast : proceed answers (p.after (Event.keys past) :: later) rest =
      onward.drawAll ((p.after (Event.keys past)).screens last)) :
    proceed answers (p :: later) (past ++ rest) = onward.drawAll (p.screens (past ++ last)) := by
  induction past generalizing p with
  | nil => exact hlast
  | cons e past ih =>
      obtain ⟨hfirst, hrest⟩ := Prompt.editsAlong_keys_cons_iff.1 h
      rw [Prompt.after_keys_cons] at hlast
      have htail := ih hrest hlast
      rw [List.cons_append, proceed_of_editing hfirst, htail, List.cons_append,
        Prompt.screens_cons]
      rfl

theorem proceed_turn (h : t.Submitted) :
    proceed answers (t.prompt :: later) (t.events ++ rest) =
      (proceed (answers.set t.prompt.id t.value) later rest).drawAll t.drawings := by
  obtain ⟨past, k, hevents, hpast, hk⟩ := h
  have hid := (Prompt.SamePrompt.after t.prompt (Event.keys past)).id_eq
  have hlast := proceed_of_submitted answers later rest hk
  rw [hid, Transcript.drawAll_append] at hlast
  have hturn := proceed_edits hpast hlast
  rw [Turn.drawings, Transcript.drawAll_append, hevents, List.append_assoc]
  exact hturn

theorem proceed_cancelled (h : t.Cancelled) :
    proceed answers (t.prompt :: later) (t.events ++ rest) = ⟨t.drawings, .cancelled⟩ := by
  obtain ⟨past, k, hevents, hpast, hk⟩ := h
  have hlast : proceed answers (t.prompt.after (Event.keys past) :: later) (.key k :: rest) =
      Transcript.drawAll ((t.prompt.after (Event.keys past)).screens [.key k])
        ⟨[.lineBreak], .cancelled⟩ := proceed_of_cancelled answers later rest hk
  have hturn := proceed_edits hpast hlast
  rw [Turn.drawings, hevents, List.append_assoc]
  exact hturn

theorem proceed_waiting (h : p.EditsAlong (Event.keys events)) :
    (proceed answers (p :: later) events).ending = .waiting := by
  have hlast : proceed answers (p.after (Event.keys events) :: later) [] =
      Transcript.drawAll ((p.after (Event.keys events)).screens []) ⟨[], .waiting⟩ := rfl
  have hturn := proceed_edits h hlast
  rw [List.append_nil] at hturn
  rw [hturn]
  rfl

/-- The beginning of a run by turns: all of them are submitted, and they leave the later prompts and
the rest of the events. -/
structure Played (prompts : List Prompt) (events : List Event) (turns : List Turn)
    (later : List Prompt) (rest : List Event) : Prop where
  prompts_eq : prompts = turns.map Turn.prompt ++ later
  events_eq : events = turns.flatMap Turn.events ++ rest
  submitted : ∀ t ∈ turns, t.Submitted

theorem Played.nil (prompts : List Prompt) (events : List Event) :
    Played prompts events [] prompts events :=
  ⟨rfl, rfl, nofun⟩

theorem Played.cons (ht : t.Submitted) (h : Played prompts events turns later rest) :
    Played (t.prompt :: prompts) (t.events ++ events) (t :: turns) later rest := by
  refine ⟨congrArg (t.prompt :: ·) h.prompts_eq, ?_, List.forall_mem_cons.2 ⟨ht, h.submitted⟩⟩
  rw [List.flatMap_cons, List.append_assoc, ← h.events_eq]

theorem proceed_of_played (h : Played prompts events turns later rest) :
    proceed answers prompts events =
      (proceed (Turn.collected turns answers) later rest).drawAll
        (turns.flatMap Turn.drawings) := by
  obtain ⟨rfl, rfl, hsubmitted⟩ := h
  induction turns generalizing answers with
  | nil => rfl
  | cons t turns ih =>
      obtain ⟨ht, hturns⟩ := List.forall_mem_cons.1 hsubmitted
      rw [List.flatMap_cons, List.append_assoc, List.map_cons, List.cons_append, proceed_turn ht,
        ih hturns, List.flatMap_cons, Transcript.drawAll_append]
      rfl

/-- Whatever prompts and events there are, the prompts submit all, or one cancels after others
submitted, or one is still on the screen. -/
theorem exists_played (prompts : List Prompt) (events : List Event) :
    (∃ turns rest, Played prompts events turns [] rest) ∨
    (∃ turns later rest, ∃ last : Turn, Played prompts events turns (last.prompt :: later)
      (last.events ++ rest) ∧ last.Cancelled) ∨
    (∃ turns later rest, ∃ p : Prompt, Played prompts events turns (p :: later) rest ∧
      p.EditsAlong (Event.keys rest)) := by
  induction prompts generalizing events with
  | nil => exact .inl ⟨[], events, .nil [] events⟩
  | cons p prompts ih =>
      rcases Turn.exists_turn p events with hedits | ⟨t, rest, rfl, rfl, ht | ht⟩
      · exact .inr (.inr ⟨[], prompts, events, p, .nil _ _, hedits⟩)
      · rcases ih rest with ⟨turns, rest, h⟩ | ⟨turns, later, rest, last, h, hlast⟩ |
          ⟨turns, later, rest, q, h, hedits⟩
        · exact .inl ⟨t :: turns, rest, h.cons ht⟩
        · exact .inr (.inl ⟨t :: turns, later, rest, last, h.cons ht, hlast⟩)
        · exact .inr (.inr ⟨t :: turns, later, rest, q, h.cons ht, hedits⟩)
      · exact .inr (.inl ⟨[], prompts, rest, t, .nil _ _, ht⟩)

theorem run_of_played (h : Played prompts events turns later rest) :
    Form.run prompts events =
      (proceed (Turn.collected turns []) later rest).drawAll (turns.flatMap Turn.drawings) :=
  (run_eq_proceed prompts events).trans (proceed_of_played h)

theorem run_answered (h : Played prompts events turns [] rest) :
    Form.run prompts events =
      ⟨turns.flatMap Turn.drawings, .answered (Turn.collected turns [])⟩ := by
  rw [run_of_played h, proceed, Transcript.drawAll, List.append_nil]

theorem run_cancelled (h : Played prompts events turns (t.prompt :: later) (t.events ++ rest))
    (ht : t.Cancelled) :
    Form.run prompts events = ⟨turns.flatMap Turn.drawings ++ t.drawings, .cancelled⟩ := by
  rw [run_of_played h, proceed_cancelled ht, Transcript.drawAll]

theorem ending_waiting (h : Played prompts events turns (p :: later) rest)
    (hedits : p.EditsAlong (Event.keys rest)) : (Form.run prompts events).ending = .waiting := by
  rw [run_of_played h]
  exact proceed_waiting hedits

/-- **A form takes its prompts in turns.** It is answered exactly if the events are the turns of all
prompts, each submitted by its last event, and cancelled exactly if they are such turns of the first
prompts and one that cancels. It draws these turns and no other prompt. The answers are those of the
last turn of each identity, and are printed after the drawings, as a JSON object with one member for
each; nothing is printed after a turn that cancels. Either way the program succeeds. -/
theorem run_in_turns (prompts : List Prompt) (events : List Event) :
    let transcript := Form.run prompts events
    ((∃ answers, transcript.ending = .answered answers) ↔
      ∃ turns rest, Played prompts events turns [] rest) ∧
    (transcript.ending = .cancelled ↔ ∃ turns later rest, ∃ last : Turn,
      Played prompts events turns (last.prompt :: later) (last.events ++ rest) ∧
        last.Cancelled) ∧
    (∀ turns rest, Played prompts events turns [] rest → ∃ answers,
      transcript = ⟨turns.flatMap Turn.drawings, .answered answers⟩ ∧
      transcript.output = transcript.written ++ (Json.ofAnswers answers ++ "\n") ∧
      Json.Writes (Json.ofAnswers answers).toList (.object (answers.map Json.answerMember)) ∧
      Turn.Collects turns answers) ∧
    (∀ turns later rest (last : Turn),
      Played prompts events turns (last.prompt :: later) (last.events ++ rest) →
      last.Cancelled →
      transcript = ⟨turns.flatMap Turn.drawings ++ last.drawings, .cancelled⟩ ∧
      transcript.output = transcript.written) ∧
    (∀ arguments read signals, Program.start arguments read = .asking prompts →
      Signal.events signals = events →
      Program.run arguments read (some signals) = ⟨0, transcript.output, ""⟩) := by
  intro transcript
  refine ⟨⟨?_, ?_⟩, ⟨?_, ?_⟩, ?_, ?_, ?_⟩
  · rintro ⟨answers, hending⟩
    rcases exists_played prompts events with h | ⟨turns, later, rest, last, h, hlast⟩ |
      ⟨turns, later, rest, p, h, hedits⟩
    · exact h
    · cases (congrArg Transcript.ending (run_cancelled h hlast)).symm.trans hending
    · cases (ending_waiting h hedits).symm.trans hending
  · rintro ⟨turns, rest, h⟩
    exact ⟨_, congrArg Transcript.ending (run_answered h)⟩
  · intro hending
    rcases exists_played prompts events with ⟨turns, rest, h⟩ | h |
      ⟨turns, later, rest, p, h, hedits⟩
    · cases (congrArg Transcript.ending (run_answered h)).symm.trans hending
    · exact h
    · cases (ending_waiting h hedits).symm.trans hending
  · rintro ⟨turns, later, rest, last, h, hlast⟩
    exact congrArg Transcript.ending (run_cancelled h hlast)
  · intro turns rest h
    have hrun : transcript = _ := run_answered h
    refine ⟨_, hrun, ?_, Json.writes_ofAnswers _, Turn.collects_collected h.submitted⟩
    rw [Transcript.output, Transcript.epilogue, hrun]
  · intro turns later rest last h hlast
    have hrun : transcript = _ := run_cancelled h hlast
    refine ⟨hrun, ?_⟩
    rw [Transcript.output, Transcript.epilogue, hrun]
    exact String.append_empty
  · rintro arguments read signals hstart rfl
    rw [Program.run, hstart]
    rfl

/-- The later of two turns of one identity counts, and a prompt that cancels leaves no answers. -/
example :
    let p := Prompt.opened "code" "Code" "99".toList ⟨false⟩ none
    let keys : List KeyCode := [.char '1', .char '2', .enter, .char '3', .home, .delete]
    let events := keys.map fun code => Event.key (.plain code)
    (run [p, p] (events ++ [.resize, .key (.plain .enter)])).ending = .answered [("code", [])] ∧
    (run [p, p] (events ++ [.resize, .key (.plain .escape)])).ending = .cancelled := by
  decide +kernel

end Form

end MaskedInput
