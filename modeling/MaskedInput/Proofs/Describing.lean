import MaskedInput.Config.Basic
import MaskedInput.Proofs.JsonReading
import Mathlib.Data.List.Forall2
import Mathlib.Data.List.Nodup

/-! Which JSON values describe a field or a configuration, and what they describe. All of it is said
by the members that an object has and never by where they stand, so a value may be reordered
(`Reordered`): what a reordering can do to a value is read off it once, for scalars, arrays and
objects, and each description is carried along from there. -/

namespace MaskedInput

open Json (Value)

/-! ### Lists -/

section Forall₂

variable {α β γ : Type} {R : α → β → Prop} {as : List α} {bs : List β}

theorem forall₂_comp {S : β → γ → Prop} {T : α → γ → Prop} {cs : List γ}
    (h : ∀ a b c, R a b → S b c → T a c)
    (hR : List.Forall₂ R as bs) (hS : List.Forall₂ S bs cs) : List.Forall₂ T as cs := by
  induction hR generalizing cs with
  | nil =>
      cases hS
      exact .nil
  | cons head tail ih =>
      cases hS with
      | cons head' tail' => exact .cons (h _ _ _ head head') (ih tail')

theorem exists_mem_of_forall₂_right (h : List.Forall₂ R as bs) : ∀ b ∈ bs, ∃ a ∈ as, R a b := by
  induction h with
  | nil => exact fun b hb => nomatch hb
  | cons head _ ih =>
      intro b hb
      rcases List.mem_cons.1 hb with rfl | hb
      · exact ⟨_, List.mem_cons_self, head⟩
      · obtain ⟨a, ha, hR⟩ := ih b hb
        exact ⟨a, List.mem_cons_of_mem _ ha, hR⟩

end Forall₂

theorem eq_of_distinct {ms : List (String × Value)} (h : (ms.map Prod.fst).Nodup) {key : String}
    {v w : Value} (hv : (key, v) ∈ ms) (hw : (key, w) ∈ ms) : v = w :=
  congrArg Prod.snd (List.inj_on_of_nodup_map h hv hw rfl)

/-! ### Fields -/

def fieldKeys : List String := ["id", "label", "mask", "preset", "default", "case_sensitive"]

/-- The members of an object that describes a field. -/
structure FieldMembers (ms : List (String × Value)) : Prop where
  known : ∀ m ∈ ms, m.1 ∈ fieldKeys
  distinct : (ms.map Prod.fst).Nodup
  id : ∃ t, ("id", .text t) ∈ ms
  options : ∀ key ∈ ["label", "mask", "preset", "default"], ∀ v, (key, v) ∈ ms →
    v = .null ∨ ∃ t, v = .text t
  caseSensitive : ∀ v, ("case_sensitive", v) ∈ ms → ∃ b, v = .boolean b

/-- The members of an object hold the values of a field. What is absent or null is nothing, and the
flag is off unless it is on. -/
structure FieldOf (ms : List (String × Value)) (f : FieldConfig) : Prop where
  id_mem : ("id", .text f.id) ∈ ms
  label_iff : ∀ t, f.label = some t ↔ ("label", .text t) ∈ ms
  mask_iff : ∀ t, f.mask = some t ↔ ("mask", .text t) ∈ ms
  preset_iff : ∀ t, f.preset = some t ↔ ("preset", .text t) ∈ ms
  default_iff : ∀ t, f.default = some t ↔ ("default", .text t) ∈ ms
  caseSensitive_iff : f.caseSensitive = true ↔ ("case_sensitive", .boolean true) ∈ ms

theorem FieldOf.unique {ms : List (String × Value)} (h : (ms.map Prod.fst).Nodup)
    {f g : FieldConfig} (hf : FieldOf ms f) (hg : FieldOf ms g) : f = g := by
  obtain ⟨id, label, mask, preset, default, caseSensitive⟩ := f
  obtain ⟨id', label', mask', preset', default', caseSensitive'⟩ := g
  have hid : id = id' := Value.text.inj (eq_of_distinct h hf.id_mem hg.id_mem)
  have hlabel : label = label' :=
    Option.ext fun t => (hf.label_iff t).trans (hg.label_iff t).symm
  have hmask : mask = mask' := Option.ext fun t => (hf.mask_iff t).trans (hg.mask_iff t).symm
  have hpreset : preset = preset' :=
    Option.ext fun t => (hf.preset_iff t).trans (hg.preset_iff t).symm
  have hdefault : default = default' :=
    Option.ext fun t => (hf.default_iff t).trans (hg.default_iff t).symm
  have hflag : caseSensitive = caseSensitive' :=
    Bool.eq_iff_iff.2 (hf.caseSensitive_iff.trans hg.caseSensitive_iff.symm)
  subst hid hlabel hmask hpreset hdefault hflag
  rfl

namespace Json.Value

def IsField : Value → Prop
  | .object ms => FieldMembers ms
  | _ => False

def DescribesField : Value → FieldConfig → Prop
  | .object ms, f => FieldOf ms f
  | _, _ => False

def IsFieldArray (v : Value) : Prop := ∃ vs, v = .array vs ∧ ∀ w ∈ vs, w.IsField

theorem DescribesField.unique {v : Value} {f g : FieldConfig} (h : v.IsField)
    (hf : v.DescribesField f) (hg : v.DescribesField g) : f = g := by
  cases v with
  | object ms => exact FieldOf.unique h.distinct hf hg
  | _ => exact h.elim

end Json.Value

/-! ### Configurations -/

/-- The members of an object that describes a configuration. -/
structure ConfigMembers (ms : List (String × Value)) : Prop where
  known : ∀ m ∈ ms, m.1 = "fields"
  distinct : (ms.map Prod.fst).Nodup
  fields : ∀ v, ("fields", v) ∈ ms → v.IsFieldArray

/-- The members of an object hold the fields of a configuration, in order. -/
structure ConfigOf (ms : List (String × Value)) (c : Config) : Prop where
  fields : ∀ vs, ("fields", .array vs) ∈ ms → List.Forall₂ Value.DescribesField vs c.fields
  absent : (∀ v, ("fields", v) ∉ ms) → c.fields = []

theorem ConfigOf.unique {ms : List (String × Value)} (h : ConfigMembers ms) {c d : Config}
    (hc : ConfigOf ms c) (hd : ConfigOf ms d) : c = d := by
  refine congrArg Config.mk (?_ : c.fields = d.fields)
  by_cases hfields : ∃ v, ("fields", v) ∈ ms
  · obtain ⟨v, hv⟩ := hfields
    obtain ⟨vs, rfl, hall⟩ := h.fields v hv
    have hunique : Relator.RightUnique fun (v : Value) f => v.IsField ∧ v.DescribesField f :=
      fun _ _ _ hf hg => Value.DescribesField.unique hf.1 hf.2 hg.2
    exact List.right_unique_forall₂' hunique
      ((List.forall₂_and_left vs c.fields).2 ⟨hall, hc.fields vs hv⟩)
      ((List.forall₂_and_left vs d.fields).2 ⟨hall, hd.fields vs hv⟩)
  · rw [hc.absent (not_exists.1 hfields), hd.absent (not_exists.1 hfields)]

namespace Json.Value

def IsConfig : Value → Prop
  | .object ms => ConfigMembers ms
  | _ => False

def DescribesConfig : Value → Config → Prop
  | .object ms, c => ConfigOf ms c
  | _, _ => False

theorem DescribesConfig.unique {v : Value} {c d : Config} (h : v.IsConfig)
    (hc : v.DescribesConfig c) (hd : v.DescribesConfig d) : c = d := by
  cases v with
  | object ms => exact ConfigOf.unique h hc hd
  | _ => exact h.elim

/-- No record is written as an array: not the configuration, and none of its fields. -/
def RecordsAsObjects : Value → Prop
  | .array _ => False
  | .object ms => ∀ vs, ("fields", .array vs) ∈ ms → ∀ ws, .array ws ∉ vs
  | _ => True

/-! ### Reordering -/

/-- A value is another one but for the order of the members in its objects, at any depth. -/
inductive Reordered : Value → Value → Prop
  | refl (v : Value) : Reordered v v
  | members {ms ns : List (String × Value)} (h : ms.Perm ns) : Reordered (.object ms) (.object ns)
  | member {before after : List (String × Value)} {key : String} {v w : Value} (h : Reordered v w) :
      Reordered (.object (before ++ (key, v) :: after)) (.object (before ++ (key, w) :: after))
  | item {before after : List Value} {v w : Value} (h : Reordered v w) :
      Reordered (.array (before ++ v :: after)) (.array (before ++ w :: after))
  | trans {u v w : Value} (h : Reordered u v) (h' : Reordered v w) : Reordered u w

def IsScalar : Value → Prop
  | .array _ => False
  | .object _ => False
  | _ => True

namespace Reordered

theorem symm {v w : Value} (h : Reordered v w) : Reordered w v := by
  induction h with
  | refl v => exact .refl v
  | members h => exact .members h.symm
  | member _ ih => exact .member ih
  | item _ ih => exact .item ih
  | trans _ _ ih ih' => exact .trans ih' ih

theorem eq_of_isScalar {v w : Value} (h : Reordered v w) (hv : v.IsScalar) : w = v := by
  induction h with
  | refl v => rfl
  | members => exact hv.elim
  | member => exact hv.elim
  | item => exact hv.elim
  | trans _ _ ih ih' =>
      obtain rfl := ih hv
      exact ih' hv

theorem of_array {vs : List Value} {w : Value} (h : Reordered (.array vs) w) :
    ∃ ws, w = .array ws ∧ List.Forall₂ Reordered vs ws := by
  generalize hv : Value.array vs = v at h
  induction h generalizing vs with
  | refl v => exact ⟨vs, hv.symm, List.forall₂_same.2 fun v _ => .refl v⟩
  | members => cases hv
  | member => cases hv
  | item h =>
      cases hv
      have hsame (vs : List Value) : List.Forall₂ Reordered vs vs :=
        List.forall₂_same.2 fun v _ => .refl v
      exact ⟨_, rfl, List.rel_append (hsame _) (.cons h (hsame _))⟩
  | trans _ _ ih ih' =>
      obtain ⟨us, rfl, hus⟩ := ih hv
      obtain ⟨ws, rfl, hws⟩ := ih' rfl
      exact ⟨ws, rfl, forall₂_comp (fun _ _ _ h h' => h.trans h') hus hws⟩

theorem of_object {ms : List (String × Value)} {w : Value} (h : Reordered (.object ms) w) :
    ∃ ns, w = .object ns ∧ (ms.map Prod.fst).Perm (ns.map Prod.fst) ∧
      ∀ key v, (key, v) ∈ ms → ∃ w, (key, w) ∈ ns ∧ Reordered v w := by
  generalize hv : Value.object ms = v at h
  induction h generalizing ms with
  | refl v => exact ⟨ms, hv.symm, .refl _, fun key v hm => ⟨v, hm, .refl v⟩⟩
  | members h =>
      cases hv
      exact ⟨_, rfl, h.map _, fun key v hm => ⟨v, h.mem_iff.1 hm, .refl v⟩⟩
  | @member before after key v w h =>
      cases hv
      refine ⟨_, rfl, .of_eq ?_, fun key' v' hm => ?_⟩
      · rw [List.map_append, List.map_append, List.map_cons, List.map_cons]
      · rcases List.mem_append.1 hm with hm | hm
        · exact ⟨v', List.mem_append_left _ hm, .refl v'⟩
        · rcases List.mem_cons.1 hm with hm | hm
          · cases hm
            exact ⟨w, List.mem_append_right _ List.mem_cons_self, h⟩
          · exact ⟨v', List.mem_append_right _ (List.mem_cons_of_mem _ hm), .refl v'⟩
  | item => cases hv
  | trans _ _ ih ih' =>
      obtain ⟨ls, rfl, hkeys, hmembers⟩ := ih hv
      obtain ⟨ns, rfl, hkeys', hmembers'⟩ := ih' rfl
      refine ⟨ns, rfl, hkeys.trans hkeys', fun key v hm => ?_⟩
      obtain ⟨u, hu, hreordered⟩ := hmembers key v hm
      obtain ⟨w, hw, hreordered'⟩ := hmembers' key u hu
      exact ⟨w, hw, hreordered.trans hreordered'⟩

section Objects

variable {ms ns : List (String × Value)} (h : Reordered (.object ms) (.object ns))
include h

theorem perm_keys : (ms.map Prod.fst).Perm (ns.map Prod.fst) := by
  obtain ⟨_, ⟨⟩, hkeys, -⟩ := h.of_object
  exact hkeys

theorem exists_mem {key : String} {v : Value} (hv : (key, v) ∈ ms) :
    ∃ w, (key, w) ∈ ns ∧ Reordered v w := by
  obtain ⟨_, ⟨⟩, -, hmembers⟩ := h.of_object
  exact hmembers key v hv

theorem mem_iff_of_isScalar {key : String} {v : Value} (hv : v.IsScalar) :
    (key, v) ∈ ms ↔ (key, v) ∈ ns := by
  have hmem {ms ns : List (String × Value)} (h : Reordered (.object ms) (.object ns))
      (hm : (key, v) ∈ ms) : (key, v) ∈ ns := by
    obtain ⟨w, hw, hreordered⟩ := h.exists_mem hm
    exact hreordered.eq_of_isScalar hv ▸ hw
  exact ⟨hmem h, hmem h.symm⟩

theorem mem_text_iff {key t : String} : (key, .text t) ∈ ms ↔ (key, .text t) ∈ ns :=
  h.mem_iff_of_isScalar (v := .text t) trivial

theorem key_mem {m : String × Value} (hm : m ∈ ns) : m.1 ∈ ms.map Prod.fst :=
  h.perm_keys.mem_iff.2 (List.mem_map_of_mem hm)

/-- What holds for the value of a key still does, if a reordering of the value keeps it. -/
theorem forall_mem {key : String} {P : Value → Prop} (hP : ∀ v w, Reordered v w → P v → P w)
    (hall : ∀ v, (key, v) ∈ ms → P v) : ∀ w, (key, w) ∈ ns → P w := by
  intro w hw
  obtain ⟨v, hv, hreordered⟩ := h.symm.exists_mem hw
  exact hP v w hreordered.symm (hall v hv)

theorem forall_key {P : String → Prop} (hall : ∀ m ∈ ms, P m.1) : ∀ m ∈ ns, P m.1 := by
  intro m hm
  obtain ⟨m', hm', hkey⟩ := List.mem_map.1 (h.key_mem hm)
  exact hkey ▸ hall m' hm'

theorem fieldMembers (hms : FieldMembers ms) : FieldMembers ns where
  known := h.forall_key hms.known
  distinct := h.perm_keys.nodup_iff.1 hms.distinct
  id := by
    obtain ⟨t, ht⟩ := hms.id
    exact ⟨t, h.mem_text_iff.1 ht⟩
  options key hkey := by
    refine h.forall_mem (fun v w hreordered hv => ?_) (hms.options key hkey)
    rcases hv with rfl | ⟨t, rfl⟩
    · exact .inl (hreordered.eq_of_isScalar trivial)
    · exact .inr ⟨t, hreordered.eq_of_isScalar trivial⟩
  caseSensitive := by
    refine h.forall_mem ?_ hms.caseSensitive
    rintro _ w hreordered ⟨b, rfl⟩
    exact ⟨b, hreordered.eq_of_isScalar trivial⟩

theorem fieldOf {f : FieldConfig} (hf : FieldOf ms f) : FieldOf ns f where
  id_mem := h.mem_text_iff.1 hf.id_mem
  label_iff t := (hf.label_iff t).trans h.mem_text_iff
  mask_iff t := (hf.mask_iff t).trans h.mem_text_iff
  preset_iff t := (hf.preset_iff t).trans h.mem_text_iff
  default_iff t := (hf.default_iff t).trans h.mem_text_iff
  caseSensitive_iff := hf.caseSensitive_iff.trans
    (h.mem_iff_of_isScalar (v := .boolean true) trivial)

end Objects

section Values

variable {v w : Value} (h : Reordered v w)
include h

theorem isField (hv : v.IsField) : w.IsField := by
  cases v with
  | object ms =>
      obtain ⟨ns, rfl, -⟩ := h.of_object
      exact h.fieldMembers hv
  | _ => exact hv.elim

theorem describesField {f : FieldConfig} (hv : v.DescribesField f) : w.DescribesField f := by
  cases v with
  | object ms =>
      obtain ⟨ns, rfl, -⟩ := h.of_object
      exact h.fieldOf hv
  | _ => exact hv.elim

theorem isFieldArray (hv : v.IsFieldArray) : w.IsFieldArray := by
  obtain ⟨vs, rfl, hall⟩ := hv
  obtain ⟨ws, rfl, hitems⟩ := h.of_array
  refine ⟨ws, rfl, fun w hw => ?_⟩
  obtain ⟨v, hv, hreordered⟩ := exists_mem_of_forall₂_right hitems w hw
  exact hreordered.isField (hall v hv)

theorem isConfig (hv : v.IsConfig) : w.IsConfig := by
  cases v with
  | object ms =>
      obtain ⟨ns, rfl, -⟩ := h.of_object
      exact ⟨h.forall_key (P := (· = "fields")) hv.known, h.perm_keys.nodup_iff.1 hv.distinct,
        h.forall_mem (fun _ _ => isFieldArray) hv.fields⟩
  | _ => exact hv.elim

theorem describesConfig {c : Config} (hv : v.DescribesConfig c) : w.DescribesConfig c := by
  cases v with
  | object ms =>
      obtain ⟨ns, rfl, -⟩ := h.of_object
      refine ⟨fun ws hws => ?_, fun habsent => hv.absent fun v hm => ?_⟩
      · obtain ⟨v, hm, hreordered⟩ := h.symm.exists_mem hws
        obtain ⟨vs, rfl, hitems⟩ := hreordered.of_array
        exact forall₂_comp (fun _ _ _ h => h.symm.describesField) hitems (hv.fields vs hm)
      · obtain ⟨w, hw, -⟩ := h.exists_mem hm
        exact habsent w hw
  | _ => exact hv.elim

theorem recordsAsObjects (hv : v.RecordsAsObjects) : w.RecordsAsObjects := by
  cases v with
  | array => exact hv.elim
  | object ms =>
      obtain ⟨ns, rfl, -⟩ := h.of_object
      intro ws hws us hus
      obtain ⟨v, hm, hreordered⟩ := h.symm.exists_mem hws
      obtain ⟨vs, rfl, hitems⟩ := hreordered.of_array
      obtain ⟨u, hu, harray⟩ := exists_mem_of_forall₂_right hitems.flip _ hus
      obtain ⟨us', rfl, -⟩ := harray.of_array
      exact hv vs hm us' hu
  | _ =>
      rw [h.eq_of_isScalar trivial]
      trivial

end Values

end Reordered

end Json.Value

end MaskedInput
