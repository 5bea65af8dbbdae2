import MaskedInput.Proofs.Turns

/-! Reports that do not matter to a run. Most reports of a terminal are passed over, and a resize
only has the present line drawn again. What an event does to a run is said once (`step_cases`): it
cancels the run, or the run goes on as if it started on the prompts that the event leads to. So a
run is told by what it draws on each event that it reads (`responses`). Without the resizes it
reads the other events and draws the same on each of them (`pressed_proceed`). -/

namespace MaskedInput

namespace Signal

/-- Reports that are read and passed over. -/
def isSkipped : Signal → Bool
  | .press _ | .resize => false
  | .release _ | .focus | .mouse | .paste => true

/-- The next event, and what is reported after it. -/
def next? : List Signal → Option (Event × List Signal)
  | [] => none
  | s :: rest =>
    match s.event? with
    | some e => some (e, rest)
    | none => next? rest

/-- The events of some signals are those that come one after the other. -/
theorem events_eq (signals : List Signal) :
    events signals = (next? signals).elim [] fun (e, rest) => e :: events rest := by
  induction signals with
  | nil => rfl
  | cons s rest ih =>
      rw [events, List.filterMap_cons, next?, ← events]
      cases s.event? with
      | some e => rfl
      | none => exact ih

theorem events_filter_isSkipped (signals : List Signal) :
    events (signals.filter (!·.isSkipped)) = events signals := by
  rw [events, List.filterMap_filter, events]
  refine List.filterMap_congr fun s _ => ?_
  cases s <;> rfl

end Signal

namespace Event

/-- The events but for the resizes. -/
def pressed (events : List Event) : List Event := events.filter (· ≠ .resize)

theorem keys_pressed (events : List Event) : keys (pressed events) = keys events := by
  rw [keys, pressed, List.filterMap_filter, keys]
  refine List.filterMap_congr fun e _ => ?_
  cases e <;> rfl

theorem pressed_events (signals : List Signal) :
    pressed (Signal.events signals) = Signal.events (signals.filter (· ≠ .resize)) := by
  rw [pressed, Signal.events, List.filter_filterMap, Signal.events, List.filterMap_filter]
  refine List.filterMap_congr fun s _ => ?_
  cases s <;> rfl

theorem pressed_append (events more : List Event) :
    pressed (events ++ more) = pressed events ++ pressed more :=
  List.filter_append events more

end Event

/-! ### Submissions -/

namespace Turn

variable {t t' : Turn} {s : PromptState} {events rest' : List Event}

/-- The turn without its resizes. -/
def pressed (t : Turn) : Turn := ⟨t.prompt, Event.pressed t.events⟩

theorem value_pressed (t : Turn) : t.pressed.value = t.value := by
  rw [value, pressed, Event.keys_pressed, value]

theorem EndsIn.pressed (h : t.EndsIn s) : t.pressed.EndsIn s := by
  obtain ⟨past, k, hevents, hpast, hk⟩ := h
  refine ⟨Event.pressed past, k, ?_, ?_, ?_⟩
  · rw [Turn.pressed, hevents, Event.pressed_append]
    rfl
  · rw [Event.keys_pressed]
    exact hpast
  · rw [Event.keys_pressed]
    exact hk

theorem submitted_pressed_iff : t.pressed.Submitted ↔ t.pressed.EndsIn (.submitted t.value) := by
  rw [Submitted, value_pressed]

/-- A turn that is found once the resizes are deleted was there before. -/
theorem EndsIn.exists_of_pressed (h : t'.EndsIn s)
    (hevents : Event.pressed events = t'.events ++ rest') :
    ∃ (t : Turn) (rest : List Event), t.pressed = t' ∧ t.EndsIn s ∧ events = t.events ++ rest ∧
      Event.pressed rest = rest' := by
  obtain ⟨past', k, hlast, hpast, hk⟩ := h
  rw [hlast, List.append_assoc] at hevents
  obtain ⟨before, after, rfl, rfl, hafter⟩ := List.filter_eq_append_iff.1 hevents
  obtain ⟨resizes, rest, rfl, hresizes, -, hrest⟩ := List.filter_eq_cons_iff.1 hafter
  have hnone : Event.pressed resizes = [] := List.filter_eq_nil_iff.2 hresizes
  have hpressed : Event.pressed (before ++ resizes) = Event.pressed before := by
    rw [Event.pressed_append, hnone, List.append_nil]
  refine ⟨⟨t'.prompt, before ++ resizes ++ [.key k]⟩, rest, ?_, ⟨before ++ resizes, k, rfl, ?_, ?_⟩,
    by simp, hrest⟩
  · rw [Turn.pressed, Event.pressed_append, hpressed]
    exact congrArg (Turn.mk t'.prompt) hlast.symm
  · rw [← Event.keys_pressed, hpressed]
    exact hpast
  · rw [← Event.keys_pressed, hpressed]
    exact hk

end Turn

namespace Form

variable {prompts later : List Prompt} {events rest' : List Event} {turns' : List Turn}

theorem pressed_flatMap (turns : List Turn) :
    Event.pressed (turns.flatMap Turn.events) = (turns.map Turn.pressed).flatMap Turn.events := by
  rw [Event.pressed, List.filter_flatMap, List.flatMap_map]
  rfl

/-- Without the resizes the prompts have the same turns, each without its resizes. -/
theorem played_pressed_iff :
    Played prompts (Event.pressed events) turns' later rest' ↔
      ∃ turns rest, Played prompts events turns later rest ∧ turns.map Turn.pressed = turns' ∧
        Event.pressed rest = rest' := by
  constructor
  · rintro ⟨rfl, hevents, hsubmitted⟩
    induction turns' generalizing events with
    | nil => exact ⟨[], events, .nil _ _, rfl, hevents⟩
    | cons t' turns' ih =>
        obtain ⟨ht', hturns'⟩ := List.forall_mem_cons.1 hsubmitted
        rw [List.flatMap_cons, List.append_assoc] at hevents
        obtain ⟨t, rest, rfl, ht, rfl, hrest⟩ := ht'.exists_of_pressed hevents
        obtain ⟨turns, rest, hplayed, rfl, hlast⟩ := ih hrest hturns'
        exact ⟨t :: turns, rest, hplayed.cons ht.submitted, rfl, hlast⟩
  · rintro ⟨turns, rest, ⟨rfl, rfl, hsubmitted⟩, rfl, rfl⟩
    refine ⟨?_, ?_, fun t' ht' => ?_⟩
    · rw [List.map_map]
      rfl
    · rw [Event.pressed_append, pressed_flatMap]
    · obtain ⟨t, ht, rfl⟩ := List.mem_map.1 ht'
      exact Turn.submitted_pressed_iff.2 (hsubmitted t ht).pressed

end Form

/-! ### Responses -/

/-- An event that a run has read, and what was drawn on it. -/
structure Response where
  event : Event
  drawings : List Drawing

namespace Form

variable {answers : Answers} {p : Prompt} {e : Event} {before after : List Response} {r : Response}
  {drawings : List Drawing}

/-- What is drawn before an event is read. -/
def opening : List Prompt → List Drawing
  | [] => []
  | p :: _ => [.line p.line]

/-- What a run from some prompts on draws on each event that it reads. -/
def responses : List Prompt → List Event → List Response
  | [], _ => []
  | _ :: _, [] => []
  | p :: later, e :: events =>
    match p.handle e with
    | (.editing, q) => ⟨e, [.line q.line]⟩ :: responses (q :: later) events
    | (.submitted _, q) =>
      ⟨e, [.line q.line, .lineBreak] ++ opening later⟩ :: responses later events
    | (.cancelled, q) => [⟨e, [.line q.line, .lineBreak]⟩]

theorem drawings_run_nil (prompts : List Prompt) : (run prompts []).drawings = opening prompts := by
  cases prompts <;> rfl

@[simp] theorem responses_nil (events : List Event) : responses [] events = [] := by
  cases events <;> rfl

/-- An event ends a run. -/
structure Cancels (answers : Answers) (p : Prompt) (later : List Prompt) (e : Event)
    (drawings : List Drawing) : Prop where
  not_resize : e ≠ .resize
  proceed_eq : ∀ events,
    proceed answers (p :: later) (e :: events) = ⟨.line p.line :: drawings, .cancelled⟩
  responses_eq : ∀ events, responses (p :: later) (e :: events) = [⟨e, drawings⟩]

/-- After an event a run goes on as if it started on some prompts, after a resize on those that
there were. -/
structure Leads (answers : Answers) (p : Prompt) (later : List Prompt) (e : Event)
    (drawings : List Drawing) (answers' : Answers) (prompts : List Prompt) : Prop where
  resize : e = .resize → answers' = answers ∧ prompts = p :: later ∧ drawings = []
  proceed_eq : ∀ events, proceed answers (p :: later) (e :: events) =
    (proceed answers' prompts events).drawAll (.line p.line :: drawings)
  responses_eq : ∀ events, responses (p :: later) (e :: events) =
    ⟨e, drawings ++ opening prompts⟩ :: responses prompts events

theorem step_cases (answers : Answers) (p : Prompt) (later : List Prompt) (e : Event) :
    (∃ drawings, Cancels answers p later e drawings) ∨
      ∃ drawings answers' prompts, Leads answers p later e drawings answers' prompts := by
  cases hstate : (p.handle e).1 with
  | editing =>
      have hhandle : p.handle e = (.editing, (p.handle e).2) := Prod.ext hstate rfl
      refine .inr ⟨[], answers, (p.handle e).2 :: later, ?_, fun events => ?_, fun events => ?_⟩
      · rintro rfl
        exact ⟨rfl, rfl, rfl⟩
      · exact proceed_of_editing hstate
      · rw [responses, hhandle]
        rfl
  | submitted value =>
      cases e with
      | resize => cases hstate
      | key k =>
          obtain ⟨-, hsame, -⟩ := Prompt.press_of_submitted hstate
          have hhandle : p.handle (.key k) = (.submitted value, p) := Prod.ext hstate hsame
          refine .inr ⟨[.line p.line, .lineBreak], answers.set p.id value, later, nofun,
            fun events => ?_, fun events => ?_⟩
          · rw [proceed_of_submitted answers later events hstate, Prompt.screens_cons, hhandle]
            rfl
          · rw [responses, hhandle]
  | cancelled =>
      cases e with
      | resize => cases hstate
      | key k =>
          have hhandle : p.handle (.key k) = (.cancelled, (p.handle (.key k)).2) :=
            Prod.ext hstate rfl
          refine .inl ⟨[.line (p.handle (.key k)).2.line, .lineBreak], nofun, fun events => ?_,
            fun events => ?_⟩
          · rw [proceed_of_cancelled answers later events hstate, Prompt.screens_cons]
            rfl
          · rw [responses, hhandle]

/-- Induction along a run: it has no prompt to ask or no event to read, an event ends it, or an
event leads to the rest of it. -/
@[elab_as_elim]
theorem run_induction {motive : Answers → List Prompt → List Event → Prop}
    (answered : ∀ answers events, motive answers [] events)
    (waiting : ∀ answers p later, motive answers (p :: later) [])
    (cancelled : ∀ answers p later e events drawings, Cancels answers p later e drawings →
      motive answers (p :: later) (e :: events))
    (going : ∀ answers p later e events drawings answers' prompts,
      Leads answers p later e drawings answers' prompts → motive answers' prompts events →
      motive answers (p :: later) (e :: events))
    (answers : Answers) (prompts : List Prompt) (events : List Event) :
    motive answers prompts events := by
  induction events generalizing answers prompts with
  | nil =>
      cases prompts with
      | nil => exact answered answers []
      | cons p later => exact waiting answers p later
  | cons e events ih =>
      cases prompts with
      | nil => exact answered answers (e :: events)
      | cons p later =>
          rcases step_cases answers p later e with ⟨drawings, h⟩ | ⟨drawings, answers', prompts, h⟩
          · exact cancelled answers p later e events drawings h
          · exact going answers p later e events drawings answers' prompts h (ih answers' prompts)

/-- A run draws what it opens with, and then on one event after the other. -/
theorem drawings_proceed (answers : Answers) (prompts : List Prompt) (events : List Event) :
    (proceed answers prompts events).drawings =
      opening prompts ++ (responses prompts events).flatMap Response.drawings := by
  induction answers, prompts, events using run_induction with
  | answered answers events =>
      rw [responses_nil]
      rfl
  | waiting answers p later => rfl
  | cancelled answers p later e events drawings h =>
      rw [h.proceed_eq, h.responses_eq, List.flatMap_singleton]
      rfl
  | going answers p later e events drawings answers' prompts h ih =>
      rw [h.proceed_eq, h.responses_eq, List.flatMap_cons, List.append_assoc, ← ih]
      rfl

/-- The events that are read decide a run. -/
theorem proceed_read (answers : Answers) (prompts : List Prompt) (events : List Event) :
    proceed answers prompts ((responses prompts events).map Response.event) =
      proceed answers prompts events := by
  induction answers, prompts, events using run_induction with
  | answered answers events => rfl
  | waiting answers p later => rfl
  | cancelled answers p later e events drawings h =>
      rw [h.responses_eq, h.proceed_eq]
      exact h.proceed_eq []
  | going answers p later e events drawings answers' prompts h ih =>
      rw [h.responses_eq, List.map_cons, h.proceed_eq, h.proceed_eq, ih]

/-- They are the first ones, and all of them unless the run ends before. -/
theorem read_beginning (answers : Answers) (prompts : List Prompt) (events : List Event) :
    (responses prompts events).map Response.event <+: events ∧
      ((responses prompts events).map Response.event = events ∨
        (proceed answers prompts events).ending ≠ .waiting) := by
  induction answers, prompts, events using run_induction with
  | answered answers events =>
      rw [responses_nil]
      exact ⟨List.nil_prefix, .inr nofun⟩
  | waiting answers p later => exact ⟨List.prefix_rfl, .inl rfl⟩
  | cancelled answers p later e events drawings h =>
      rw [h.responses_eq, h.proceed_eq]
      exact ⟨(List.prefix_cons_inj e).2 List.nil_prefix, .inr nofun⟩
  | going answers p later e events drawings answers' prompts h ih =>
      rw [h.responses_eq, h.proceed_eq, List.map_cons]
      exact ⟨(List.prefix_cons_inj e).2 ih.1, ih.2.imp_left (congrArg (e :: ·))⟩

/-- A run on the first events responds to these as a longer one does, and waits for the next one. -/
theorem responses_beginning (answers : Answers) (prompts : List Prompt) (events : List Event)
    (h : responses prompts events = before ++ after) :
    responses prompts (before.map Response.event) = before ∧
      (after ≠ [] → (proceed answers prompts (before.map Response.event)).ending = .waiting) := by
  induction answers, prompts, events using run_induction generalizing before with
  | answered answers events =>
      rw [responses_nil] at h
      obtain ⟨rfl, rfl⟩ := List.append_eq_nil_iff.1 h.symm
      exact ⟨rfl, fun hne => absurd rfl hne⟩
  | waiting answers p later =>
      obtain ⟨rfl, rfl⟩ := List.append_eq_nil_iff.1 h.symm
      exact ⟨rfl, fun _ => rfl⟩
  | cancelled answers p later e events drawings hcancels =>
      rw [hcancels.responses_eq] at h
      cases before with
      | nil => exact ⟨rfl, fun _ => rfl⟩
      | cons b before =>
          obtain ⟨rfl, htail⟩ := List.cons.inj h
          obtain ⟨rfl, rfl⟩ := List.append_eq_nil_iff.1 htail.symm
          exact ⟨hcancels.responses_eq [], fun hne => absurd rfl hne⟩
  | going answers p later e events drawings answers' prompts hleads ih =>
      rw [hleads.responses_eq] at h
      cases before with
      | nil => exact ⟨rfl, fun _ => rfl⟩
      | cons b before =>
          obtain ⟨rfl, htail⟩ := List.cons.inj h
          obtain ⟨hread, hwaits⟩ := ih htail
          rw [List.map_cons, hleads.responses_eq, hread, hleads.proceed_eq]
          exact ⟨rfl, hwaits⟩

/-- On a resize the last drawing is made again. -/
theorem redraws_last (prompts : List Prompt) (events : List Event)
    (h : responses prompts events = before ++ r :: after) (hr : r.event = .resize) :
    ∃ d, r.drawings = [d] ∧
      (opening prompts ++ before.flatMap Response.drawings).getLast? = some d := by
  induction ([] : Answers), prompts, events using run_induction generalizing before with
  | answered answers events =>
      rw [responses_nil] at h
      simp at h
  | waiting answers p later => simp [responses] at h
  | cancelled answers p later e events drawings hcancels =>
      rw [hcancels.responses_eq, List.singleton_eq_append_iff] at h
      rcases h with ⟨rfl, h⟩ | ⟨-, h⟩
      · cases h
        exact absurd hr hcancels.not_resize
      · cases h
  | going answers p later e events drawings answers' prompts hleads ih =>
      rw [hleads.responses_eq] at h
      cases before with
      | nil =>
          obtain ⟨rfl, -⟩ := List.cons.inj h
          obtain ⟨-, rfl, rfl⟩ := hleads.resize hr
          exact ⟨.line p.line, rfl, rfl⟩
      | cons b before =>
          obtain ⟨rfl, htail⟩ := List.cons.inj h
          obtain ⟨d, hd, hlast⟩ := ih htail
          refine ⟨d, hd, ?_⟩
          rw [List.flatMap_cons, List.append_assoc, ← List.append_assoc, List.getLast?_append,
            hlast]
          rfl

theorem pressed_proceed (answers : Answers) (prompts : List Prompt) (events : List Event) :
    (proceed answers prompts (Event.pressed events)).ending =
        (proceed answers prompts events).ending ∧
      responses prompts (Event.pressed events) =
        (responses prompts events).filter (·.event ≠ .resize) := by
  induction answers, prompts, events using run_induction with
  | answered answers events =>
      rw [responses_nil, responses_nil]
      exact ⟨rfl, rfl⟩
  | waiting answers p later => exact ⟨rfl, rfl⟩
  | cancelled answers p later e events drawings h =>
      have hpressed : Event.pressed (e :: events) = e :: Event.pressed events :=
        List.filter_cons_of_pos (decide_eq_true h.not_resize)
      rw [hpressed, h.proceed_eq, h.proceed_eq, h.responses_eq, h.responses_eq]
      exact ⟨rfl, by simp [h.not_resize]⟩
  | going answers p later e events drawings answers' prompts h ih =>
      rw [h.proceed_eq, h.responses_eq]
      by_cases he : e = .resize
      · obtain ⟨rfl, rfl, rfl⟩ := h.resize he
        rw [Event.pressed, List.filter_cons_of_neg (by simpa using he),
          List.filter_cons_of_neg (by simpa using he)]
        exact ih
      · rw [Event.pressed, List.filter_cons_of_pos (by simpa using he),
          List.filter_cons_of_pos (by simpa using he), h.proceed_eq, h.responses_eq]
        exact ⟨ih.1, congrArg _ ih.2⟩

/-- Some events are those that a run reads, each with what is drawn on it. They are the first
events and decide the run, which waits for each of them and has ended after them unless there are
no more. -/
structure Reads (prompts : List Prompt) (events : List Event) (responses : List Response) :
    Prop where
  beginning : responses.map Response.event <+: events
  decides : run prompts (responses.map Response.event) = run prompts events
  ends : responses.map Response.event = events ∨ (run prompts events).ending ≠ .waiting
  waits : ∀ before r after, responses = before ++ r :: after →
    (run prompts (before.map Response.event)).ending = .waiting
  draws : ∀ before after, responses = before ++ after →
    (run prompts (before.map Response.event)).drawings =
      (run prompts []).drawings ++ before.flatMap Response.drawings

theorem reads_responses (prompts : List Prompt) (events : List Event) :
    Reads prompts events (responses prompts events) := by
  have hbeginning := read_beginning [] prompts events
  refine ⟨hbeginning.1, ?_, ?_, fun before r after h => ?_, fun before after h => ?_⟩
  · rw [run_eq_proceed, run_eq_proceed]
    exact proceed_read [] prompts events
  · rw [run_eq_proceed]
    exact hbeginning.2
  · rw [run_eq_proceed]
    exact (responses_beginning [] prompts events h).2 (List.cons_ne_nil r after)
  · have hbefore := (responses_beginning [] prompts events h).1
    rw [drawings_run_nil, run_eq_proceed, drawings_proceed, hbefore]

/-- **Redraws and skipped reports do not influence a run.** Without the reports that are passed
over the program writes and reports the same. Without the resizes as well, the run ends in the same
way and each prompt submits the same text. It reads the other events and draws the same on each of
them; on a resize only the drawing before it was made once more. -/
theorem run_without_redraws (prompts : List Prompt) (signals : List Signal) :
    let acted := signals.filter (!·.isSkipped)
    let pressed := acted.filter (· ≠ .resize)
    let events := Signal.events signals
    let t := run prompts events
    let bare := run prompts (Signal.events pressed)
    (∀ reports, Signal.events reports =
      (Signal.next? reports).elim [] fun (e, rest) => e :: Signal.events rest) ∧
    run prompts (Signal.events acted) = t ∧
    (∀ arguments read,
      Program.run arguments read (some acted) = Program.run arguments read (some signals)) ∧
    bare.ending = t.ending ∧ bare.epilogue = t.epilogue ∧
    (∀ turns' later rest', Played prompts (Signal.events pressed) turns' later rest' ↔
      ∃ turns rest, Played prompts events turns later rest ∧ turns.map Turn.pressed = turns' ∧
        Event.pressed rest = rest') ∧
    (∀ turn : Turn, turn.pressed.prompt = turn.prompt ∧ turn.pressed.value = turn.value) ∧
    ∃ responses, Reads prompts events responses ∧
      Reads prompts (Signal.events pressed) (responses.filter (·.event ≠ .resize)) ∧
      ∀ before r after, responses = before ++ r :: after → r.event = .resize →
        ∃ d, r.drawings = [d] ∧
          (run prompts (before.map Response.event)).drawings.getLast? = some d := by
  intro acted pressed events t bare
  have hacted : Signal.events acted = events := Signal.events_filter_isSkipped signals
  have hpressed : Signal.events pressed = Event.pressed events := by
    rw [← hacted]
    exact (Event.pressed_events acted).symm
  obtain ⟨hending, hresponses⟩ := pressed_proceed [] prompts events
  have hsame : bare.ending = t.ending := by
    rw [show bare = _ from congrArg (run prompts) hpressed, run_eq_proceed,
      show t = _ from run_eq_proceed prompts events]
    exact hending
  have hreads := reads_responses prompts events
  refine ⟨Signal.events_eq, congrArg (run prompts) hacted, fun arguments read => ?_, hsame, ?_, ?_,
    fun turn => ⟨rfl, turn.value_pressed⟩, responses prompts events, hreads, ?_,
    fun before r after h hr => ?_⟩
  · rw [Program.run, Program.run]
    simp only [hacted, events]
  · rw [Transcript.epilogue, hsame, Transcript.epilogue]
  · intro turns' later rest'
    rw [hpressed]
    exact played_pressed_iff
  · rw [hpressed, ← hresponses]
    exact reads_responses prompts (Event.pressed events)
  · obtain ⟨d, hd, hlast⟩ := redraws_last prompts events h hr
    refine ⟨d, hd, ?_⟩
    rw [hreads.draws before (r :: after) h, drawings_run_nil]
    exact hlast

/-- The line at the start, with a digit and with the error is drawn twice, since a resize follows
each time; the resize after the cancel is not read. -/
example :
    let p := Prompt.opened "code" "Code" "99".toList ⟨false⟩ none
    let signals : List Signal := [.resize, .press (.plain (.char '1')), .focus, .resize,
      .press (.plain .enter), .resize, .press (.plain .escape), .resize]
    let t := run [p] (Signal.events signals)
    let bare := run [p] (Signal.events (signals.filter (· ≠ .resize)))
    bare.drawings.length = 5 ∧
      t.drawings = (bare.drawings.take 3).flatMap (fun d => [d, d]) ++ bare.drawings.drop 3 := by
  decide +kernel

end Form

end MaskedInput
