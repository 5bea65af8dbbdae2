import MaskedInput.Config.Json
import MaskedInput.Proofs.Describing

/-! A JSON document is decoded to the configuration that it describes, and to none if it describes
none. A record puts its members together one by one (`FieldDraft.ofMembers`); for each key this is
what the one member with that key says (`Slot`). The reader of a record does nothing else, and takes
the members exactly if all of them are known, different and suitable (`members_eq_ok_iff`). -/

namespace MaskedInput

open Document Json

theorem Reading.bind_eq_ok_iff {φ α β : Type} {x : Reading φ α} {f : α → Reading φ β} {b : β} :
    (x >>= f) = .ok b ↔ ∃ a, x = .ok a ∧ f a = .ok b := by
  cases x with
  | error e => exact ⟨fun h => (nomatch h), fun ⟨_, h, _⟩ => (nomatch h)⟩
  | ok a =>
      constructor
      · exact fun h => ⟨a, rfl, h⟩
      · rintro ⟨a', ha, h⟩
        cases ha
        exact h

theorem Reading.map_eq_ok_iff {φ α β : Type} {x : Reading φ α} {f : α → β} {b : β} :
    (do return f (← x)) = .ok b ↔ ∃ a, x = .ok a ∧ b = f a := by
  rw [bind_eq_ok_iff]
  refine exists_congr fun a => and_congr_right fun _ => ?_
  constructor
  · exact fun h => (Except.ok.inj h).symm
  · rintro rfl
    rfl

/-! ### Fields -/

namespace Json.Value

def text? : Value → Option String
  | .text t => some t
  | _ => none

def flag : Value → Bool
  | .boolean b => b
  | _ => false

/-- A text or nothing. -/
def IsOptionalText (v : Value) : Prop := v = .null ∨ ∃ t, v = .text t

theorem text?_eq_some_iff {v : Value} {t : String} : v.text? = some t ↔ v = .text t := by
  cases v <;> simp [text?]

theorem flag_eq_true_iff {v : Value} : v.flag = true ↔ v = .boolean true := by
  cases v <;> simp [flag]

end Json.Value

namespace FieldDraft

/-- What a member may hold, by its key. -/
def Suits (key : String) (v : Value) : Prop :=
  match key with
  | "id" => ∃ t, v = .text t
  | "case_sensitive" => ∃ b, v = .boolean b
  | _ => v.IsOptionalText

/-- The draft with a member in its place. -/
def put (d : FieldDraft) (key : String) (v : Value) : FieldDraft :=
  match key with
  | "id" => { d with id := v.text? }
  | "label" => { d with label := v.text? }
  | "mask" => { d with mask := v.text? }
  | "preset" => { d with preset := v.text? }
  | "default" => { d with default := v.text? }
  | _ => { d with caseSensitive := v.flag }

def ofMembers (ms : List (String × Value)) : FieldDraft :=
  ms.foldl (fun d m => d.put m.1 m.2) {}

/-- A part of the draft that one key writes, and no other. -/
def Slot {α : Type} (key : String) (get : FieldDraft → α) (of : Value → α) : Prop :=
  ∀ d k v, k ∈ fieldKeys → get (d.put k v) = if k = key then of v else get d

theorem slots :
    Slot "id" FieldDraft.id Value.text? ∧ Slot "label" FieldDraft.label Value.text? ∧
    Slot "mask" FieldDraft.mask Value.text? ∧ Slot "preset" FieldDraft.preset Value.text? ∧
    Slot "default" FieldDraft.default Value.text? ∧
    Slot "case_sensitive" FieldDraft.caseSensitive Value.flag := by
  refine ⟨?_, ?_, ?_, ?_, ?_, ?_⟩ <;>
  · intro d k v hk
    simp only [fieldKeys, List.mem_cons, List.not_mem_nil, or_false] at hk
    rcases hk with rfl | rfl | rfl | rfl | rfl | rfl <;> rfl

section Slots

variable {α : Type} {key : String} {get : FieldDraft → α} {of : Value → α}
  {ms : List (String × Value)} (h : Slot key get of) (hkeys : ∀ m ∈ ms, m.1 ∈ fieldKeys)
include h hkeys

theorem Slot.foldl_of_not_mem (hkey : key ∉ ms.map Prod.fst) (d : FieldDraft) :
    get (ms.foldl (fun d m => d.put m.1 m.2) d) = get d := by
  induction ms generalizing d with
  | nil => rfl
  | cons m ms ih =>
      obtain ⟨hm, hms⟩ := List.forall_mem_cons.1 hkeys
      rw [List.map_cons, List.mem_cons, not_or] at hkey
      rw [List.foldl_cons, ih hms hkey.2, h d m.1 m.2 hm, if_neg (Ne.symm hkey.1)]

theorem Slot.foldl_of_mem (hdistinct : (ms.map Prod.fst).Nodup) {v : Value}
    (hv : (key, v) ∈ ms) (d : FieldDraft) :
    get (ms.foldl (fun d m => d.put m.1 m.2) d) = of v := by
  induction ms generalizing d with
  | nil => cases hv
  | cons m ms ih =>
      obtain ⟨hm, hms⟩ := List.forall_mem_cons.1 hkeys
      rw [List.map_cons, List.nodup_cons] at hdistinct
      rw [List.foldl_cons]
      rcases List.mem_cons.1 hv with rfl | hv
      · rw [h.foldl_of_not_mem hms hdistinct.1, h d key v hm, if_pos rfl]
      · exact ih hms hdistinct.2 hv _

/-- What a slot holds that it did not hold at first comes from the member with its key. -/
theorem Slot.ofMembers_eq_iff (hdistinct : (ms.map Prod.fst).Nodup) {a : α}
    (hstart : get {} ≠ a) : get (ofMembers ms) = a ↔ ∃ v, (key, v) ∈ ms ∧ of v = a := by
  constructor
  · intro ha
    by_cases hkey : key ∈ ms.map Prod.fst
    · obtain ⟨⟨k, v⟩, hv, rfl⟩ := List.mem_map.1 hkey
      exact ⟨v, hv, (h.foldl_of_mem hkeys hdistinct hv {}).symm.trans ha⟩
    · exact absurd ((h.foldl_of_not_mem hkeys hkey {}).symm.trans ha) hstart
  · rintro ⟨v, hv, rfl⟩
    exact h.foldl_of_mem hkeys hdistinct hv {}

end Slots

theorem Slot.ofMembers_eq_some_iff {key : String} {get : FieldDraft → Option String}
    (h : Slot key get Value.text?) {ms : List (String × Value)}
    (hkeys : ∀ m ∈ ms, m.1 ∈ fieldKeys) (hdistinct : (ms.map Prod.fst).Nodup)
    (hstart : get {} = none) {t : String} :
    get (ofMembers ms) = some t ↔ (key, .text t) ∈ ms := by
  rw [h.ofMembers_eq_iff hkeys hdistinct (by rw [hstart]; exact nofun)]
  simp only [Value.text?_eq_some_iff, exists_eq_right]

end FieldDraft

theorem fieldMembers_iff {ms : List (String × Value)} :
    FieldMembers ms ↔ (∀ m ∈ ms, m.1 ∈ fieldKeys ∧ FieldDraft.Suits m.1 m.2) ∧
      (ms.map Prod.fst).Nodup ∧ ∃ t, ("id", .text t) ∈ ms := by
  constructor
  · intro h
    refine ⟨fun m hm => ⟨h.known m hm, ?_⟩, h.distinct, h.id⟩
    obtain ⟨key, v⟩ := m
    have hkey := h.known _ hm
    simp only [fieldKeys, List.mem_cons, List.not_mem_nil, or_false] at hkey
    rcases hkey with rfl | rfl | rfl | rfl | rfl | rfl
    · obtain ⟨t, ht⟩ := h.id
      exact ⟨t, eq_of_distinct h.distinct hm ht⟩
    · exact h.options "label" (by decide) v hm
    · exact h.options "mask" (by decide) v hm
    · exact h.options "preset" (by decide) v hm
    · exact h.options "default" (by decide) v hm
    · exact h.caseSensitive v hm
  · rintro ⟨hall, hdistinct, hid⟩
    refine ⟨fun m hm => (hall m hm).1, hdistinct, hid, fun key hkey v hv => ?_,
      fun v hv => (hall _ hv).2⟩
    have hsuits := (hall _ hv).2
    simp only [List.mem_cons, List.not_mem_nil, or_false] at hkey
    rcases hkey with rfl | rfl | rfl | rfl <;> exact hsuits

/-- The field that the members of an object are put together to. -/
def fieldOfMembers (ms : List (String × Value)) : FieldConfig :=
  let d := FieldDraft.ofMembers ms
  ⟨d.id.getD "", d.label, d.mask, d.preset, d.default, d.caseSensitive⟩

theorem FieldMembers.exists_id {ms : List (String × Value)} (h : FieldMembers ms) :
    ∃ t, (FieldDraft.ofMembers ms).id = some t := by
  obtain ⟨t, ht⟩ := h.id
  exact ⟨t, (FieldDraft.slots.1.ofMembers_eq_some_iff h.known h.distinct rfl).2 ht⟩

theorem FieldMembers.fieldOf {ms : List (String × Value)} (h : FieldMembers ms) :
    FieldOf ms (fieldOfMembers ms) := by
  have htext {key : String} {get : FieldDraft → Option String}
      (hslot : FieldDraft.Slot key get Value.text?) (hstart : get {} = none) (t : String) :
      get (FieldDraft.ofMembers ms) = some t ↔ (key, .text t) ∈ ms :=
    hslot.ofMembers_eq_some_iff h.known h.distinct hstart
  obtain ⟨hid, hlabel, hmask, hpreset, hdefault, hflag⟩ := FieldDraft.slots
  obtain ⟨t, ht⟩ := h.exists_id
  have hmem : ("id", .text ((FieldDraft.ofMembers ms).id.getD "")) ∈ ms := by
    rw [ht]
    exact (htext hid rfl t).1 ht
  refine ⟨hmem, htext hlabel rfl, htext hmask rfl, htext hpreset rfl, htext hdefault rfl, ?_⟩
  refine (hflag.ofMembers_eq_iff h.known h.distinct (by decide)).trans ?_
  simp only [Value.flag_eq_true_iff, exists_eq_right]

/-! ### Configurations -/

namespace Json.Value

def field : Value → FieldConfig
  | .object ms => fieldOfMembers ms
  | _ => fieldOfMembers []

def items : Value → List Value
  | .array vs => vs
  | _ => []

/-- The configuration that an object is put together to. -/
def config : Value → Config
  | .object ms => ms.foldl (fun _ m => ⟨m.2.items.map field⟩) ⟨[]⟩
  | _ => ⟨[]⟩

/-! A number has no place in a field or in a configuration. -/

theorem exists_of_showsMembers {ms : List (String × Value)} {ns : Members Json.Fault}
    (h : ShowsMembers false ms ns) : ∃ m ∈ ms, ∃ node, Shows false m.2 node := by
  induction ms generalizing ns with
  | nil => cases h
  | cons m ms ih =>
      cases h with
      | member key _ _ head tail =>
          obtain ⟨m, hm, hstop⟩ := ih tail
          exact ⟨m, List.mem_cons_of_mem _ hm, hstop⟩
      | last key _ _ head => exact ⟨_, List.mem_cons_self, _, head⟩

theorem exists_of_showsItems {vs : List Value} {is : Items Json.Fault}
    (h : ShowsItems false vs is) : ∃ v ∈ vs, ∃ node, Shows false v node := by
  induction vs generalizing is with
  | nil => cases h
  | cons v vs ih =>
      cases h with
      | item _ head tail =>
          obtain ⟨w, hw, hstop⟩ := ih tail
          exact ⟨w, List.mem_cons_of_mem _ hw, hstop⟩
      | last _ head => exact ⟨v, List.mem_cons_self, _, head⟩

section Stops

variable {v : Value} {node : Json.Node} (h : Shows false v node)
include h

theorem not_suits_of_shows (key : String) : ¬FieldDraft.Suits key v := by
  have hnull : v ≠ .null := by
    rintro rfl
    cases h
  have htext (t : String) : v ≠ .text t := by
    rintro rfl
    cases h
  have hboolean (b : Bool) : v ≠ .boolean b := by
    rintro rfl
    cases h
  unfold FieldDraft.Suits
  split
  · exact fun ⟨t, ht⟩ => htext t ht
  · exact fun ⟨b, hb⟩ => hboolean b hb
  · rintro (hv | ⟨t, ht⟩)
    · exact hnull hv
    · exact htext t ht

theorem not_isField_of_shows : ¬v.IsField := by
  cases h with
  | object _ hms =>
      intro hfield
      obtain ⟨m, hm, n, hstop⟩ := exists_of_showsMembers hms
      exact not_suits_of_shows hstop m.1 ((fieldMembers_iff.1 hfield).1 m hm).2
  | _ => exact id

theorem not_isFieldArray_of_shows : ¬v.IsFieldArray := by
  rintro ⟨vs, rfl, hfields⟩
  cases h with
  | array _ hvs =>
      obtain ⟨w, hw, n, hstop⟩ := exists_of_showsItems hvs
      exact not_isField_of_shows hstop (hfields w hw)

theorem not_isConfig_of_shows : ¬v.IsConfig := by
  cases h with
  | object _ hms =>
      rintro ⟨hknown, -, hfields⟩
      obtain ⟨⟨key, w⟩, hm, n, hstop⟩ := exists_of_showsMembers hms
      obtain rfl : key = "fields" := hknown _ hm
      exact not_isFieldArray_of_shows hstop (hfields w hm)
  | _ => exact id

end Stops

end Json.Value

namespace Document.Context

variable {cx : Context Json.Fault} {whole : Bool} {v : Value} {node : Json.Node} {path : Path}

/-! ### Reading scalars -/

@[simp] theorem mismatch_ne_ok {φ α : Type} {wanted : String} {path : Path}
    {node : Document.Node φ} {a : α} : mismatch wanted path node ≠ .ok a := by
  cases node <;> exact fun h => nomatch h

section Scalars

variable (h : Shows whole v node)
include h

theorem resolve_of_shows : cx.resolve node = node := by
  cases h <;> rfl

theorem text_eq_ok_iff {wanted t : String} : cx.text wanted path node = .ok t ↔ v = .text t := by
  rw [text, resolve_of_shows h]
  cases h <;> simp [Json.null, Json.boolean, Json.number, textScalar, pure, Except.pure]

theorem flag_eq_ok_iff {b : Bool} : cx.flag path node = .ok b ↔ v = .boolean b := by
  rw [flag, resolve_of_shows h]
  cases h <;> simp [Json.null, Json.boolean, Json.number, textScalar, pure, Except.pure]

theorem optionalText_eq_ok_iff {place : Place} {o : Option String} :
    cx.optionalText place path node = .ok o ↔ v.IsOptionalText ∧ o = v.text? := by
  rw [optionalText, resolve_of_shows h]
  cases h <;> simp [Value.IsOptionalText, Value.text?, text, resolve, mismatch, complain, refuse,
    Json.null, Json.boolean, Json.number, textScalar, pure, Except.pure, Functor.map, Except.map,
    eq_comm]

end Scalars

/-! ### Reading records -/

section Records

variable {σ : Type} {kind : RecordKind Json.Fault σ} {suits : String → Value → Prop}
  {put : σ → String → Value → σ} {ms : List (String × Value)} {ns : Members Json.Fault}

/-- A kind of record takes the value of a member exactly if it suits the key, and puts it in its
place. What cannot be read to its end suits no key. -/
structure Takes (kind : RecordKind Json.Fault σ) (suits : String → Value → Prop)
    (put : σ → String → Value → σ) (ms : List (String × Value)) : Prop where
  take_eq_ok_iff : ∀ m ∈ ms, m.1 ∈ kind.fields → ∀ ⦃whole node place path s s'⦄,
    Shows whole m.2 node →
      (kind.take m.1 place path node s = .ok s' ↔ suits m.1 m.2 ∧ s' = put s m.1 m.2)
  not_suits : ∀ m ∈ ms, ∀ node, Shows false m.2 node → ¬suits m.1 m.2

theorem Takes.tail {m : String × Value} (h : Takes kind suits put (m :: ms)) :
    Takes kind suits put ms :=
  ⟨fun m hm => h.take_eq_ok_iff m (List.mem_cons_of_mem _ hm),
    fun m hm => h.not_suits m (List.mem_cons_of_mem _ hm)⟩

/-- The keys of members are different, and none of them was seen before. -/
def Fresh (seen : List String) (ms : List (String × Value)) : Prop :=
  (∀ m ∈ ms, m.1 ∉ seen) ∧ (ms.map Prod.fst).Nodup

theorem fresh_nil_iff : Fresh [] ms ↔ (ms.map Prod.fst).Nodup :=
  and_iff_right fun _ _ => List.not_mem_nil

theorem fresh_cons_iff {seen : List String} {m : String × Value} :
    Fresh seen (m :: ms) ↔ m.1 ∉ seen ∧ Fresh (m.1 :: seen) ms := by
  rw [Fresh, Fresh, List.forall_mem_cons, List.map_cons, List.nodup_cons]
  constructor
  · rintro ⟨⟨hseen, hall⟩, hnew, hdistinct⟩
    refine ⟨hseen, fun n hn h => ?_, hdistinct⟩
    rcases List.mem_cons.1 h with h | h
    · exact hnew (h ▸ List.mem_map_of_mem hn)
    · exact hall n hn h
  · rintro ⟨hseen, hall, hdistinct⟩
    refine ⟨⟨hseen, fun n hn h => hall n hn (List.mem_cons_of_mem _ h)⟩, fun h => ?_, hdistinct⟩
    obtain ⟨n, hn, hkey⟩ := List.mem_map.1 h
    exact hall n hn (hkey ▸ List.mem_cons_self)

/-- A member is read if its key is known and new, and its value is taken. -/
theorem members_cons_eq_ok_iff {place : Place} {seen : List String} {s : σ} {key : String}
    {m m' : Mark} {r : σ × Mark} :
    cx.members kind place seen s (.member (.scalar (textScalar key) m) m' node ns) = .ok r ↔
      key ∈ kind.fields ∧ key ∉ seen ∧
        ∃ s', kind.take key place (.key key :: place.path) node s = .ok s' ∧
          cx.members kind place (key :: seen) s' ns = .ok r := by
  have hread : cx.members kind place seen s (.member (.scalar (textScalar key) m) m' node ns) =
      if key ∉ kind.fields then complain (.unknownField key kind.fields) place.path m
      else if key ∈ seen then complain (.duplicateField key) place.path m'
      else kind.take key place (.key key :: place.path) node s >>= fun s =>
        cx.members kind place (key :: seen) s ns := by
    rw [members]
    rfl
  rw [hread]
  split_ifs with hkey hseen
  · exact ⟨fun h => (nomatch h), fun h => absurd hseen h.2.1⟩
  · rw [Reading.bind_eq_ok_iff]
    exact ⟨fun h => ⟨hkey, hseen, h⟩, fun h => h.2.2⟩
  · exact ⟨fun h => (nomatch h), fun h => absurd h.1 hkey⟩

/-- The members of a record are taken exactly if all keys are known and different and every value
suits its key. -/
theorem members_eq_ok_iff (h : ShowsMembers whole ms ns) (htakes : Takes kind suits put ms)
    {place : Place} {seen : List String} {s s' : σ} :
    (∃ mark, cx.members kind place seen s ns = .ok (s', mark)) ↔
      (∀ m ∈ ms, m.1 ∈ kind.fields ∧ suits m.1 m.2) ∧ Fresh seen ms ∧
        s' = ms.foldl (fun s m => put s m.1 m.2) s := by
  induction ms generalizing ns seen s with
  | nil =>
      cases h with
      | close m =>
          constructor
          · rintro ⟨mark, hread⟩
            cases hread
            exact ⟨fun _ hm => (nomatch hm), ⟨fun _ hm => (nomatch hm), List.nodup_nil⟩, rfl⟩
          · rintro ⟨-, -, rfl⟩
            exact ⟨m, rfl⟩
  | cons member ms ih =>
      obtain ⟨key, v⟩ := member
      have htake := htakes.take_eq_ok_iff _ List.mem_cons_self
      have hstop := htakes.not_suits _ List.mem_cons_self
      have ih := fun {ns} h {seen s} => @ih ns h htakes.tail seen s
      rw [List.forall_mem_cons, fresh_cons_iff, List.foldl_cons]
      cases h with
      | member _ m m' head tail =>
          simp only [members_cons_eq_ok_iff]
          constructor
          · rintro ⟨mark, hkey, hseen, s₁, htaken, hrest⟩
            obtain ⟨hsuits, rfl⟩ := (htake hkey head).1 htaken
            obtain ⟨hall, hfresh, rfl⟩ := (ih tail).1 ⟨mark, hrest⟩
            exact ⟨⟨⟨hkey, hsuits⟩, hall⟩, ⟨hseen, hfresh⟩, rfl⟩
          · rintro ⟨⟨⟨hkey, hsuits⟩, hall⟩, ⟨hseen, hfresh⟩, rfl⟩
            obtain ⟨mark, hread⟩ := (ih tail).2 ⟨hall, hfresh, rfl⟩
            exact ⟨mark, hkey, hseen, _, (htake hkey head).2 ⟨hsuits, rfl⟩, hread⟩
      | last _ m m' head =>
          simp only [members_cons_eq_ok_iff]
          constructor
          · rintro ⟨-, hkey, -, s₁, htaken, -⟩
            exact absurd ((htake hkey head).1 htaken).1 (hstop _ head)
          · rintro ⟨⟨⟨-, hsuits⟩, -⟩, -, -⟩
            exact absurd hsuits (hstop _ head)

theorem record_eq_ok_iff (h : Shows whole (.object ms) node) (htakes : Takes kind suits put ms)
    {start s' : σ} :
    (∃ r, cx.record kind path start node = .ok r ∧ r.state = s') ↔
      (∀ m ∈ ms, m.1 ∈ kind.fields ∧ suits m.1 m.2) ∧ (ms.map Prod.fst).Nodup ∧
        s' = ms.foldl (fun s m => put s m.1 m.2) start := by
  rw [record, resolve_of_shows h]
  cases h with
  | object mark hmembers =>
      have hread : (∃ close, cx.members kind ⟨path, mark⟩ [] start _ = .ok (s', close)) ↔ _ :=
        members_eq_ok_iff hmembers htakes
      rw [fresh_nil_iff] at hread
      rw [← hread]
      constructor
      · rintro ⟨r, hr, rfl⟩
        obtain ⟨⟨s, close⟩, hms, hdone⟩ := Reading.bind_eq_ok_iff.1 hr
        cases hdone
        exact ⟨close, hms⟩
      · rintro ⟨close, hms⟩
        exact ⟨_, Reading.bind_eq_ok_iff.2 ⟨_, hms, rfl⟩, rfl⟩

theorem record_ne_ok (h : Shows whole v node) (hobject : ∀ ms, v ≠ .object ms)
    (harray : ∀ vs, v ≠ .array vs) {start : σ} {r : RecordRead σ} :
    cx.record kind path start node ≠ .ok r := by
  rw [record, resolve_of_shows h]
  cases h with
  | array => exact absurd rfl (harray _)
  | object => exact absurd rfl (hobject _)
  | unreadable => exact fun h => nomatch h
  | _ => exact fun h => nomatch h

end Records

/-! ### Fields -/

theorem take_field_eq_ok_iff {key : String} (hkey : key ∈ cx.fieldKind.fields)
    (h : Shows whole v node) {place : Place} {d d' : FieldDraft} :
    cx.fieldKind.take key place path node d = .ok d' ↔
      FieldDraft.Suits key v ∧ d' = d.put key v := by
  have hoption (f : Option String → FieldDraft) :
      (do return f (← cx.optionalText place path node)) = .ok d' ↔
        v.IsOptionalText ∧ d' = f v.text? := by
    rw [Reading.map_eq_ok_iff]
    simp only [optionalText_eq_ok_iff h]
    constructor
    · rintro ⟨_, ⟨hv, rfl⟩, rfl⟩
      exact ⟨hv, rfl⟩
    · rintro ⟨hv, rfl⟩
      exact ⟨_, ⟨hv, rfl⟩, rfl⟩
  simp only [fieldKind, List.mem_cons, List.not_mem_nil, or_false] at hkey
  rcases hkey with rfl | rfl | rfl | rfl | rfl | rfl
  · change (do return { d with id := some (← cx.text "a string" path node) }) = .ok d' ↔
      (∃ t, v = .text t) ∧ d' = { d with id := v.text? }
    rw [Reading.map_eq_ok_iff]
    simp only [text_eq_ok_iff h]
    constructor
    · rintro ⟨t, rfl, rfl⟩
      exact ⟨⟨t, rfl⟩, rfl⟩
    · rintro ⟨⟨t, rfl⟩, rfl⟩
      exact ⟨t, rfl, rfl⟩
  · exact hoption fun o => { d with label := o }
  · exact hoption fun o => { d with mask := o }
  · exact hoption fun o => { d with preset := o }
  · exact hoption fun o => { d with default := o }
  · change (do return { d with caseSensitive := ← cx.flag path node }) = .ok d' ↔
      (∃ b, v = .boolean b) ∧ d' = { d with caseSensitive := v.flag }
    rw [Reading.map_eq_ok_iff]
    simp only [flag_eq_ok_iff h]
    constructor
    · rintro ⟨b, rfl, rfl⟩
      exact ⟨⟨b, rfl⟩, rfl⟩
    · rintro ⟨⟨b, rfl⟩, rfl⟩
      exact ⟨b, rfl, rfl⟩

theorem takes_field (ms : List (String × Value)) :
    Takes cx.fieldKind FieldDraft.Suits FieldDraft.put ms :=
  ⟨fun _ _ hkey _ _ _ _ _ _ h => take_field_eq_ok_iff hkey h,
    fun m _ _ h => Value.not_suits_of_shows h m.1⟩

theorem record_field_eq_ok_iff {ms : List (String × Value)} (h : Shows whole (.object ms) node)
    {d : FieldDraft} :
    (∃ r, cx.record cx.fieldKind path {} node = .ok r ∧ r.state = d) ↔
      (∀ m ∈ ms, m.1 ∈ fieldKeys ∧ FieldDraft.Suits m.1 m.2) ∧ (ms.map Prod.fst).Nodup ∧
        d = FieldDraft.ofMembers ms :=
  record_eq_ok_iff h (takes_field ms)

theorem field_eq_ok_iff (h : Shows whole v node) (harray : ∀ vs, v ≠ .array vs) {f : FieldConfig} :
    cx.field path node = .ok f ↔ v.IsField ∧ f = v.field := by
  rw [field, Reading.bind_eq_ok_iff]
  cases v with
  | object ms =>
      constructor
      · rintro ⟨r, hr, hdone⟩
        obtain ⟨hall, hdistinct, hstate⟩ := (record_field_eq_ok_iff h).1 ⟨r, hr, rfl⟩
        rw [hstate] at hdone
        split at hdone
        · rename_i id hid
          have hmem := (FieldDraft.slots.1.ofMembers_eq_some_iff (fun m hm => (hall m hm).1)
            hdistinct rfl).1 hid
          refine ⟨fieldMembers_iff.2 ⟨hall, hdistinct, id, hmem⟩, ?_⟩
          cases hdone
          rw [Value.field, fieldOfMembers, hid]
          rfl
        · cases hdone
      · rintro ⟨hfield, rfl⟩
        obtain ⟨hall, hdistinct, -⟩ := fieldMembers_iff.1 hfield
        obtain ⟨r, hr, hstate⟩ := (record_field_eq_ok_iff h).2 ⟨hall, hdistinct, rfl⟩
        obtain ⟨t, ht⟩ := hfield.exists_id
        refine ⟨r, hr, ?_⟩
        rw [hstate, Value.field, fieldOfMembers, ht]
        rfl
  | array vs => exact absurd rfl (harray vs)
  | _ =>
      refine ⟨fun ⟨r, hr, _⟩ => ?_, fun hfield => hfield.1.elim⟩
      exact absurd hr (record_ne_ok h (fun _ => nofun) harray)

/-! ### The fields of a configuration -/

theorem elements_eq_ok_iff {α : Type} {read : Path → Json.Node → Reading Json.Fault α}
    {P : Value → Prop} {f : Value → α} {vs : List Value} {is : Items Json.Fault}
    (h : ShowsItems whole vs is)
    (hread : ∀ v ∈ vs, ∀ ⦃whole node path a⦄, Shows whole v node →
      (read path node = .ok a ↔ P v ∧ a = f v))
    (hstop : ∀ v ∈ vs, ∀ node, Shows false v node → ¬P v) {index : Nat} {as : List α} :
    elements read path index is = .ok as ↔ (∀ v ∈ vs, P v) ∧ as = vs.map f := by
  induction vs generalizing is index as with
  | nil =>
      cases h with
      | close m =>
          constructor
          · intro hdone
            cases hdone
            exact ⟨fun _ hv => (nomatch hv), rfl⟩
          · rintro ⟨-, rfl⟩
            rfl
  | cons v vs ih =>
      have hread' := hread v List.mem_cons_self
      have ih := fun {is} h {index as} => @ih is h
        (fun v hv => hread v (List.mem_cons_of_mem _ hv))
        (fun v hv => hstop v (List.mem_cons_of_mem _ hv)) index as
      rw [List.forall_mem_cons, List.map_cons]
      cases h with
      | item m head tail =>
          simp only [elements, Reading.bind_eq_ok_iff, hread' head, ih tail]
          constructor
          · rintro ⟨_, ⟨hv, rfl⟩, _, ⟨hvs, rfl⟩, hdone⟩
            cases hdone
            exact ⟨⟨hv, hvs⟩, rfl⟩
          · rintro ⟨⟨hv, hvs⟩, rfl⟩
            exact ⟨_, ⟨hv, rfl⟩, _, ⟨hvs, rfl⟩, rfl⟩
      | last m head =>
          simp only [elements, Reading.bind_eq_ok_iff, hread' head]
          constructor
          · rintro ⟨_, ⟨hv, -⟩, -⟩
            exact absurd hv (hstop v List.mem_cons_self _ head)
          · rintro ⟨⟨hv, -⟩, -⟩
            exact absurd hv (hstop v List.mem_cons_self _ head)

theorem sequence_field_eq_ok_iff (h : Shows whole v node)
    (hobjects : ∀ vs, v = .array vs → ∀ ws, .array ws ∉ vs) {fs : List FieldConfig} :
    cx.sequence cx.field path node = .ok fs ↔ v.IsFieldArray ∧ fs = v.items.map Value.field := by
  rw [sequence, resolve_of_shows h]
  have hnot (hv : ∀ vs, v ≠ .array vs) : ¬v.IsFieldArray := fun ⟨vs, hvs, _⟩ => hv vs hvs
  cases h with
  | @array _ vs is _ hitems =>
      have hread : ∀ w ∈ vs, ∀ ⦃whole node path f⦄, Shows whole w node →
          (cx.field path node = .ok f ↔ w.IsField ∧ f = w.field) := by
        intro w hw whole node path f hshows
        exact field_eq_ok_iff hshows fun ws hws => hobjects vs rfl ws (hws ▸ hw)
      refine (elements_eq_ok_iff hitems hread fun w _ _ => Value.not_isField_of_shows).trans ?_
      constructor
      · rintro ⟨hfields, rfl⟩
        exact ⟨⟨vs, rfl, hfields⟩, rfl⟩
      · rintro ⟨⟨_, ⟨⟩, hfields⟩, rfl⟩
        exact ⟨hfields, rfl⟩
  | _ => exact ⟨fun h => (nomatch h), fun h => (hnot (fun _ => nofun) h.1).elim⟩

theorem takes_config {ms : List (String × Value)}
    (hobjects : (Value.object ms).RecordsAsObjects) :
    Takes cx.configKind (fun _ v => v.IsFieldArray)
      (fun _ _ v => ⟨v.items.map Value.field⟩) ms := by
  refine ⟨?_, fun _ _ _ => Value.not_isFieldArray_of_shows⟩
  rintro ⟨key, v⟩ hm hkey whole node place path c c' h
  obtain rfl : key = "fields" := List.mem_singleton.1 hkey
  refine Reading.map_eq_ok_iff.trans ?_
  simp only [sequence_field_eq_ok_iff h fun vs hvs => hobjects vs (hvs ▸ hm)]
  constructor
  · rintro ⟨_, ⟨hv, rfl⟩, rfl⟩
    exact ⟨hv, rfl⟩
  · rintro ⟨hv, rfl⟩
    exact ⟨_, ⟨hv, rfl⟩, rfl⟩

theorem config_eq_ok_iff (h : Shows whole v node) (hobjects : v.RecordsAsObjects) {c : Config} :
    cx.config node = .ok c ↔ v.IsConfig ∧ c = v.config := by
  rw [config, Reading.map_eq_ok_iff]
  cases v with
  | object ms =>
      simp only [eq_comm (a := c)]
      rw [record_eq_ok_iff h (takes_config hobjects), eq_comm, ← and_assoc]
      refine and_congr_left fun _ => ?_
      constructor
      · rintro ⟨hall, hdistinct⟩
        exact ⟨fun m hm => List.mem_singleton.1 (hall m hm).1, hdistinct,
          fun v hv => (hall _ hv).2⟩
      · rintro ⟨hknown, hdistinct, hfields⟩
        refine ⟨fun m hm => ⟨List.mem_singleton.2 (hknown m hm), ?_⟩, hdistinct⟩
        exact hfields m.2 (hknown m hm ▸ hm)
  | array vs => exact hobjects.elim
  | _ =>
      refine ⟨fun ⟨r, hr, _⟩ => ?_, fun hconfig => hconfig.1.elim⟩
      exact absurd hr (record_ne_ok h (fun _ => nofun) fun _ => nofun)

end Document.Context

/-! ### Documents -/

theorem mapError_eq_ok_iff {ε ε' α : Type} {x : Except ε α} {f : ε → ε'} {a : α} :
    x.mapError f = .ok a ↔ x = .ok a := by
  cases x <;> simp [Except.mapError]

theorem Json.Value.IsField.describesField {v : Value} (h : v.IsField) :
    v.DescribesField v.field := by
  cases v with
  | object ms => exact FieldMembers.fieldOf h
  | _ => exact h.elim

theorem ConfigMembers.eq_nil_or_singleton {ms : List (String × Value)} (h : ConfigMembers ms) :
    ms = [] ∨ ∃ vs, ms = [("fields", .array vs)] ∧ ∀ w ∈ vs, w.IsField := by
  match ms with
  | [] => exact .inl rfl
  | [(key, v)] =>
      obtain rfl : key = "fields" := h.known _ List.mem_cons_self
      obtain ⟨vs, rfl, hall⟩ := h.fields v List.mem_cons_self
      exact .inr ⟨vs, rfl, hall⟩
  | m :: n :: ms =>
      have hm := h.known m List.mem_cons_self
      have hn := h.known n (List.mem_cons_of_mem _ List.mem_cons_self)
      have hdistinct := h.distinct
      simp [hm, hn] at hdistinct

theorem Json.Value.IsConfig.describesConfig {v : Value} (h : v.IsConfig) :
    v.DescribesConfig v.config := by
  cases v with
  | object ms =>
      rcases ConfigMembers.eq_nil_or_singleton h with rfl | ⟨vs, rfl, hall⟩
      · exact ⟨fun _ hvs => (nomatch hvs), fun _ => rfl⟩
      · refine ⟨fun us hus => ?_, fun habsent => absurd List.mem_cons_self (habsent _)⟩
        obtain rfl : us = vs := by
          cases List.mem_singleton.1 hus
          rfl
        exact List.forall₂_map_right_iff.2
          (List.forall₂_same.2 fun w hw => (hall w hw).describesField)
  | _ => exact h.elim

namespace Config

section

variable {t : String} {v : Value} (h : Writes t.toList v) (hobjects : v.RecordsAsObjects)
include h hobjects

theorem ofJson_eq_ok_iff {c : Config} : ofJson t = .ok c ↔ v.IsConfig ∧ c = v.config := by
  obtain ⟨whole, hroot, htail⟩ := document_shows h
  rw [ofJson, mapError_eq_ok_iff, Document.read, Reading.bind_eq_ok_iff]
  simp only [Document.Context.config_eq_ok_iff hroot hobjects]
  cases whole with
  | true =>
      rw [htail rfl]
      constructor
      · rintro ⟨_, ⟨hv, rfl⟩, hdone⟩
        cases hdone
        exact ⟨hv, rfl⟩
      · rintro ⟨hv, rfl⟩
        exact ⟨_, ⟨hv, rfl⟩, rfl⟩
  | false =>
      have hnot := Value.not_isConfig_of_shows hroot
      exact ⟨fun ⟨_, ⟨hv, _⟩, _⟩ => absurd hv hnot, fun ⟨hv, _⟩ => absurd hv hnot⟩

theorem ofJson_eq_ok_iff_describesConfig {c : Config} :
    ofJson t = .ok c ↔ v.IsConfig ∧ v.DescribesConfig c := by
  refine (ofJson_eq_ok_iff h hobjects).trans (and_congr_right fun hv => ?_)
  constructor
  · rintro rfl
    exact hv.describesConfig
  · exact fun hc => hc.unique hv hv.describesConfig

end

/-- **Configurations are decoded strictly.** A document in which records are written as objects is
taken exactly if it describes a configuration, and that is the result; the order of the members in
its objects changes neither. -/
theorem ofJson_strict {t : String} {v : Value} (h : Writes t.toList v)
    (hobjects : v.RecordsAsObjects) :
    ((∃ c, ofJson t = .ok c) ↔ v.IsConfig) ∧
    (∀ c, ofJson t = .ok c ↔ v.IsConfig ∧ v.DescribesConfig c) ∧
    ∀ t' v', v.Reordered v' → Writes t'.toList v' →
      ∀ c, ofJson t' = .ok c ↔ ofJson t = .ok c := by
  refine ⟨⟨?_, fun hv => ?_⟩, fun c => ofJson_eq_ok_iff_describesConfig h hobjects, ?_⟩
  · rintro ⟨c, hc⟩
    exact ((ofJson_eq_ok_iff h hobjects).1 hc).1
  · exact ⟨v.config, (ofJson_eq_ok_iff h hobjects).2 ⟨hv, rfl⟩⟩
  · intro t' v' hreordered h' c
    rw [ofJson_eq_ok_iff_describesConfig h hobjects,
      ofJson_eq_ok_iff_describesConfig h' (hreordered.recordsAsObjects hobjects)]
    exact and_congr ⟨hreordered.symm.isConfig, hreordered.isConfig⟩
      ⟨hreordered.symm.describesConfig, hreordered.describesConfig⟩

/-- Two documents of one field, in either order of its members. -/
theorem ofJson_strict_two_orders :
    let fields (ms : List (String × Value)) : Value := .object [("fields", .array [.object ms])]
    let v := fields [("id", .text "zip"), ("mask", .null)]
    let v' := fields [("mask", .null), ("id", .text "zip")]
    let t := "\x7b\"fields\": [\x7b\"id\": \"zip\", \"mask\": null\x7d]\x7d"
    let t' := "\x7b\"fields\": [\x7b\"mask\": null, \"id\": \"zip\"\x7d]\x7d"
    let c : Config := ⟨[⟨"zip", none, none, none, none, false⟩]⟩
    Writes t.toList v ∧ v.RecordsAsObjects ∧ v.Reordered v' ∧ Writes t'.toList v' ∧
      v.IsConfig ∧ v.DescribesConfig c ∧ ofJson t = .ok c ∧ ofJson t' = .ok c := by
  intro fields v v' t t' c
  have hwrites : Writes t.toList v :=
    .mk blank_nil
      (.object (.member (.first blank_nil) (.of_plain rfl) blank_nil blank_space
        (.array (.item (.first blank_nil)
          (.object
            (.member (.first blank_nil) (.of_plain rfl) blank_nil blank_space
              (.text (.of_plain rfl))
            (.member (.next blank_nil blank_space) (.of_plain rfl) blank_nil blank_space
              .null
            (.close blank_nil))))
          (.close blank_nil)))
        (.close blank_nil)))
      blank_nil (by decide)
  have hwrites' : Writes t'.toList v' :=
    .mk blank_nil
      (.object (.member (.first blank_nil) (.of_plain rfl) blank_nil blank_space
        (.array (.item (.first blank_nil)
          (.object
            (.member (.first blank_nil) (.of_plain rfl) blank_nil blank_space
              .null
            (.member (.next blank_nil blank_space) (.of_plain rfl) blank_nil blank_space
              (.text (.of_plain rfl))
            (.close blank_nil))))
          (.close blank_nil)))
        (.close blank_nil)))
      blank_nil (by decide)
  have hobjects : v.RecordsAsObjects := by
    intro vs hvs ws hws
    cases List.mem_singleton.1 hvs
    cases List.mem_singleton.1 hws
  have hreordered : v.Reordered v' :=
    @Value.Reordered.member [] [] _ _ _ (@Value.Reordered.item [] [] _ _ (.members (.swap _ _ _)))
  have hfield : FieldMembers [("id", .text "zip"), ("mask", .null)] ∧
      FieldOf [("id", .text "zip"), ("mask", .null)] ⟨"zip", none, none, none, none, false⟩ := by
    refine ⟨⟨?_, ?_, ?_, ?_, ?_⟩, ⟨?_, ?_, ?_, ?_, ?_, ?_⟩⟩ <;> simp [fieldKeys]
  have hconfig : v.IsConfig ∧ v.DescribesConfig c := by
    refine ⟨⟨?_, ?_, ?_⟩, ⟨?_, ?_⟩⟩ <;>
      simp [c, Value.IsFieldArray, Value.IsField, Value.DescribesField, hfield]
  obtain ⟨-, hresult, hmoved⟩ := ofJson_strict hwrites hobjects
  have hread := (hresult c).2 hconfig
  exact ⟨hwrites, hobjects, hreordered, hwrites', hconfig.1, hconfig.2, hread,
    (hmoved t' v' hreordered hwrites' c).2 hread⟩

end Config

end MaskedInput
