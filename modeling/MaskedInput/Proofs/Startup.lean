import MaskedInput.Program
import MaskedInput.Proofs.Editing
import MaskedInput.Proofs.Lookup
import Mathlib.Data.List.Forall2

/-! What comes before the first prompt. Every field asks for a mask or has a fault, and the prompts
of a configuration are made in the order of its fields: the first fault is the failure of the run,
whatever the terminal has to say, and without one all prompts open on their defaults. -/

namespace MaskedInput

/-! ### Lists of results -/

section Results

variable {α β ε : Type} {g : α → Except ε β} {before after xs : List α} {x : α} {e : ε}

/-- The first element that fails decides, and those behind it do not matter. -/
theorem mapM_eq_error (hbefore : ∀ b ∈ before, ∃ y, g b = .ok y) (hx : g x = .error e) :
    (before ++ x :: after).mapM g = .error e := by
  induction before with
  | nil =>
      rw [List.nil_append, List.mapM_cons, hx]
      rfl
  | cons b before ih =>
      obtain ⟨⟨y, hy⟩, hrest⟩ := List.forall_mem_cons.1 hbefore
      rw [List.cons_append, List.mapM_cons, hy, ih hrest]
      rfl

theorem exists_mapM_eq_ok {R : α → β → Prop} (h : ∀ x ∈ xs, ∃ y, g x = .ok y ∧ R x y) :
    ∃ ys, xs.mapM g = .ok ys ∧ List.Forall₂ R xs ys := by
  induction xs with
  | nil => exact ⟨[], rfl, .nil⟩
  | cons x xs ih =>
      obtain ⟨⟨y, hy, hR⟩, hrest⟩ := List.forall_mem_cons.1 h
      obtain ⟨ys, hys, hRs⟩ := ih hrest
      refine ⟨y :: ys, ?_, .cons hR hRs⟩
      rw [List.mapM_cons, hy, hys]
      rfl

end Results

/-! ### Masks by name -/

namespace Mask

variable {name : String}

theorem named_of_not_mem (h : name ∉ presetNames) : named name = .error (.unknownPreset name) := by
  have hnone : presets.lookup name = none :=
    Option.not_isSome_iff_eq_none.1 (mt (isSome_lookup_iff presets name).1 h)
  rw [named, preset?, hnone]
  rfl

theorem exists_named_of_mem (h : name ∈ presetNames) :
    ∃ definition, (name, definition) ∈ presets ∧
      named name = .ok (.compile definition.toList) := by
  obtain ⟨definition, hsome⟩ :=
    Option.isSome_iff_exists.1 ((isSome_lookup_iff presets name).2 h)
  obtain ⟨before, after, hpresets, -⟩ := List.lookup_eq_some_iff.1 hsome
  refine ⟨definition, ?_, ?_⟩
  · rw [hpresets]
    exact List.mem_append_right before List.mem_cons_self
  · rw [named, preset?, hsome]
    rfl

end Mask

/-! ### Fields -/

namespace FieldConfig

variable {f : FieldConfig} {e : Failure}

/-- A field asks for the mask of a definition: its own, or that of its preset. -/
inductive AsksFor (f : FieldConfig) : String → Prop
  | own {definition : String} (hmask : f.mask = some definition) : AsksFor f definition
  | preset {name definition : String} (hmask : f.mask = none) (hpreset : f.preset = some name)
      (hname : (name, definition) ∈ Mask.presets) : AsksFor f definition

/-- Without a mask of its own, a field fails if it names no preset or one that there is not. -/
inductive Fault (f : FieldConfig) : Failure → Prop
  | missingMask (hmask : f.mask = none) (hpreset : f.preset = none) : Fault f (.missingMask f.id)
  | unknownPreset {name : String} (hmask : f.mask = none) (hpreset : f.preset = some name)
      (hname : name ∉ Mask.presetNames) : Fault f (.unknownPreset name)

/-- A prompt that is ready for a field. -/
structure OpensOn (f : FieldConfig) (p : Prompt) : Prop where
  id_eq : p.id = f.id
  label_eq : p.label = f.label.getD f.id
  mask_eq : ∃ definition, f.AsksFor definition ∧ p.session.mask = .compile definition.toList
  caseSensitive_eq : p.session.caseSensitive = f.caseSensitive
  value_eq : p.value =
    f.default.elim [] fun text => p.session.mask.format ⟨f.caseSensitive⟩ text.toList
  caret_eq : p.buffer.caret = p.value.length
  lastValue_eq : p.session.lastValue = p.value
  not_refused : p.refused = false

theorem Fault.prompt_eq (h : f.Fault e) : f.prompt = .error e := by
  have hresolve : f.resolve = .error e := by
    cases h with
    | missingMask hmask hpreset => rw [resolve, hmask, hpreset]
    | unknownPreset hmask hpreset hname =>
        rw [resolve, hmask, hpreset]
        exact Mask.named_of_not_mem hname
  rw [prompt, hresolve]
  rfl

theorem exists_resolve (h : ∀ e, ¬f.Fault e) :
    ∃ definition, f.AsksFor definition ∧ f.resolve = .ok (.compile definition.toList) := by
  cases hmask : f.mask with
  | some definition =>
      refine ⟨definition, .own hmask, ?_⟩
      rw [resolve, hmask]
  | none =>
      cases hpreset : f.preset with
      | none => exact absurd (.missingMask hmask hpreset) (h _)
      | some name =>
          have hname : name ∈ Mask.presetNames := by
            by_contra hname
            exact h _ (.unknownPreset hmask hpreset hname)
          obtain ⟨definition, hmem, hnamed⟩ := Mask.exists_named_of_mem hname
          refine ⟨definition, .preset hmask hpreset hmem, ?_⟩
          rw [resolve, hmask, hpreset]
          exact hnamed

theorem opensOn_opened {definition : String} (h : f.AsksFor definition) :
    f.OpensOn (Prompt.opened f.id f.shownLabel definition.toList f.options
      (f.default.map String.toList)) := by
  cases hdefault : f.default with
  | none =>
      exact ⟨rfl, rfl, ⟨definition, h, rfl⟩, rfl, by rw [hdefault]; rfl, rfl, rfl, rfl⟩
  | some text =>
      exact ⟨rfl, rfl, ⟨definition, h, rfl⟩, rfl, by rw [hdefault]; rfl, rfl, rfl, rfl⟩

theorem exists_prompt (h : ∀ e, ¬f.Fault e) : ∃ p, f.prompt = .ok p ∧ f.OpensOn p := by
  obtain ⟨definition, hasks, hresolve⟩ := exists_resolve h
  refine ⟨_, ?_, opensOn_opened hasks⟩
  rw [prompt, hresolve]
  cases f.default with
  | none => rfl
  | some text => rfl

/-- A preset by its name, and a default that does not fill it. -/
example :
    (prompt ⟨"zip", none, none, some "zip_us", some "1a2", false⟩).toOption.map
      (fun p => (p.label, p.value, p.buffer.caret)) = some ("zip", "12".toList, 2) := by
  decide +kernel

theorem not_fault_of_mask {definition : String} (hmask : f.mask = some definition) (e : Failure) :
    ¬f.Fault e := by
  rintro (⟨hnone, -⟩ | ⟨hnone, -, -⟩)
  · cases hnone.symm.trans hmask
  · cases hnone.symm.trans hmask

end FieldConfig

/-! ### Runs of a configuration -/

namespace Program

/-- The arguments ask for the fields of a configuration that can be loaded. -/
def Configured (arguments : List String) (read : FileReader) (c : Config) : Prop :=
  ∃ (o : Options) (path : String), CommandLine.parse arguments = .ok (.run o) ∧
    o.get? .config = some path ∧ Config.load read path = .ok c

variable {arguments : List String} {read : FileReader} {c : Config}

theorem Configured.start_eq (h : Configured arguments read c) :
    start arguments read =
      match c.prompts with
      | .error e => .finished (.failure e)
      | .ok prompts => .asking prompts := by
  obtain ⟨o, path, hparse, hpath, hload⟩ := h
  rw [start, hparse]
  simp only [Options.prompts, hpath, hload]
  rfl

/-- **The first fault of a configuration is raised before anything is shown.** It is the failure of
the run whatever the fields behind it are and whatever happens at the terminal, even if there is
none. A field with a mask of its own has no fault. Without faults there is one prompt for each field,
in their order, with its label, its options and its default laid out on its mask. -/
theorem configured_starts (h : Configured arguments read c) :
    (∀ before f after e, c.fields = before ++ f :: after → (∀ g ∈ before, ∀ e, ¬g.Fault e) →
      f.Fault e →
      start arguments read = .finished (.failure e) ∧
      ∀ signals, run arguments read signals = ⟨1, "", "Error: " ++ e.message ++ "\n"⟩) ∧
    (∀ (f : FieldConfig) definition, f.mask = some definition → (∀ e, ¬f.Fault e) ∧
      ∃ p, f.prompt = .ok p ∧ p.session.mask = .compile definition.toList) ∧
    ((∀ f ∈ c.fields, ∀ e, ¬f.Fault e) →
      ∃ prompts, start arguments read = .asking prompts ∧
        List.Forall₂ FieldConfig.OpensOn c.fields prompts) := by
  have hstart := h.start_eq
  refine ⟨fun before f after e hfields hbefore hfault => ?_, fun f definition hmask => ?_,
    fun hfields => ?_⟩
  · have hprompts : c.prompts = .error e := by
      rw [Config.prompts, hfields]
      refine mapM_eq_error (fun g hg => ?_) hfault.prompt_eq
      obtain ⟨p, hp, -⟩ := FieldConfig.exists_prompt (hbefore g hg)
      exact ⟨p, hp⟩
    rw [hprompts] at hstart
    refine ⟨hstart, fun signals => ?_⟩
    rw [run, hstart]
    rfl
  · have hnone := FieldConfig.not_fault_of_mask hmask
    refine ⟨hnone, ?_⟩
    obtain ⟨p, hp, hopens⟩ := FieldConfig.exists_prompt hnone
    obtain ⟨asked, hasks, hsession⟩ := hopens.mask_eq
    refine ⟨p, hp, ?_⟩
    cases hasks with
    | own hown =>
        cases hown.symm.trans hmask
        exact hsession
    | preset hother _ _ => cases hother.symm.trans hmask
  · obtain ⟨prompts, hprompts, hopens⟩ := exists_mapM_eq_ok fun f hf =>
      FieldConfig.exists_prompt (hfields f hf)
    have hask : c.prompts = .ok prompts := hprompts
    rw [hask] at hstart
    exact ⟨prompts, hstart, hopens⟩

/-- The second of three fields fails; the first has a mask and may name any preset. -/
theorem second_field_fails :
    let arguments := ["-c", "form.yaml"]
    let read : FileReader := fun _ =>
      .ok "fields:\n- id: a\n  mask: '99'\n  preset: b\n- id: b\n  preset: c\n- id: c\n"
    let first : FieldConfig := ⟨"a", none, some "99", some "b", none, false⟩
    let second : FieldConfig := ⟨"b", none, none, some "c", none, false⟩
    let third : FieldConfig := ⟨"c", none, none, none, none, false⟩
    Configured arguments read ⟨[first, second, third]⟩ ∧
    (∀ e, ¬first.Fault e) ∧ second.Fault (.unknownPreset "c") ∧
    third.Fault (.missingMask "c") ∧
    start arguments read = .finished (.failure (.unknownPreset "c")) ∧
    ∀ signals, run arguments read signals =
      ⟨1, "", "Error: " ++ (Failure.unknownPreset "c").message ++ "\n"⟩ := by
  intro arguments read first second third
  have hload : Configured arguments read ⟨[first, second, third]⟩ :=
    ⟨⟨[(.config, "form.yaml")], false⟩, "form.yaml", by decide +kernel, rfl, by decide +kernel⟩
  have hfirst : ∀ e, ¬first.Fault e := FieldConfig.not_fault_of_mask rfl
  have hsecond : second.Fault (.unknownPreset "c") := .unknownPreset rfl rfl (by decide)
  obtain ⟨hfails, -, -⟩ := configured_starts hload
  obtain ⟨hstart, hrun⟩ := hfails [first] second [third] _ rfl
    (List.forall_mem_singleton.2 hfirst) hsecond
  exact ⟨hload, hfirst, hsecond, .missingMask rfl rfl, hstart, hrun⟩

end Program

end MaskedInput
