import MaskedInput.Proofs.Lookup
import MaskedInput.Proofs.Since
import MaskedInput.Registry
import Mathlib.Data.Finset.Card
import Mathlib.Logic.Function.Basic

/-! Registries keep identities apart. What a request of one identity answers and does depends on the
session and the field of that identity only, its cell, and leaves all other cells as they are
(`cell_ask_self`, `cell_ask_of_ne`). So every identity sees the run that it would see alone, and the
registry is as large as there are identities that were attached and not detached since. -/

namespace MaskedInput

namespace Registry

/-! ### Looking up -/

section Lookup

variable {φ : Type} [TextField φ] {r : Registry} {id : String}

theorem get?_set (r : Registry) (id : String) (s : Session) (other : String) :
    (r.set id s).get? other =
      if other = id then (r.get? id).map (fun _ => s) else r.get? other :=
  lookup_exchange r.sessions id other s

theorem get?_detach (r : Registry) (id other : String) :
    (r.detach id).2.get? other = if other = id then none else r.get? other :=
  lookup_filter_ne r.sessions id other

theorem attach_of_some {s : Session} (h : r.get? id = some s) (field : φ) (m : Mask)
    (o : MaskOptions) : r.attach id field m o = (s, r) := by
  rw [attach]
  split
  · rename_i t ht
    rw [Option.some.inj (ht.symm.trans h)]
  · rename_i hnone
    cases hnone.symm.trans h

theorem attach_of_none (h : r.get? id = none) (field : φ) (m : Mask) (o : MaskOptions) :
    (r.attach id field m o).1 = .attach field m o ∧
    (r.attach id field m o).2.sessions = r.sessions ++ [(id, .attach field m o)] := by
  rw [attach]
  split
  · rename_i s hs
    cases hs.symm.trans h
  · exact ⟨rfl, rfl⟩

/-- An attachment gives the session that there is, or one that starts from the field. -/
theorem attach_fst (r : Registry) (id : String) (field : φ) (m : Mask) (o : MaskOptions) :
    (r.attach id field m o).1 = (r.get? id).getD (.attach field m o) := by
  cases h : r.get? id with
  | some s => rw [attach_of_some h, Option.getD_some]
  | none => rw [(attach_of_none h field m o).1, Option.getD_none]

theorem get?_attach (r : Registry) (id : String) (field : φ) (m : Mask) (o : MaskOptions)
    (other : String) :
    (r.attach id field m o).2.get? other =
      if other = id then some (r.attach id field m o).1 else r.get? other := by
  cases h : r.get? id with
  | some s =>
      rw [attach_of_some h]
      split_ifs with hother
      · rw [hother, h]
      · rfl
  | none =>
      obtain ⟨hfst, hsessions⟩ := attach_of_none h field m o
      rw [get?] at h
      rw [hfst, get?, hsessions, List.lookup_append, lookup_entry, get?]
      by_cases hother : other = id
      · simp [hother, h]
      · simp [hother]

/-- The registry has one session for each identity that it finds. -/
theorem mem_ids_iff (r : Registry) (id : String) :
    id ∈ (r.sessions.map Prod.fst).toFinset ↔ (r.get? id).isSome = true := by
  rw [List.mem_toFinset, get?, isSome_lookup_iff]

theorem card_ids (r : Registry) : (r.sessions.map Prod.fst).toFinset.card = r.size := by
  rw [List.toFinset_card_of_nodup r.distinct, List.length_map]
  rfl

end Lookup

/-! ### Requests -/

/-- What can be asked for one identity, an edit of its field included. -/
inductive Request where
  | attach (mask : Mask) (options : MaskOptions)
  /-- An attachment whose session is given another mask at once. -/
  | attachThenSetMask (mask : Mask) (options : MaskOptions) (definition : Text)
  | detach
  | notify
  | get
  | edit (change : LineBuffer → LineBuffer)

def Request.attaches : Request → Bool
  | .attach .. | .attachThenSetMask .. => true
  | _ => false

/-- What a request answers. -/
inductive Reply where
  | attached (session : Session)
  | detached (session : Option Session)
  | notified (changed : Bool)
  | found (session : Option Session)
  | edited

/-- A registry, and a field for every identity. -/
structure Desk where
  registry : Registry
  fields : String → LineBuffer

/-- The part of a desk that belongs to one identity. -/
structure Cell where
  session : Option Session
  field : LineBuffer

namespace Desk

def ask (k : Desk) (id : String) : Request → Reply × Desk
  | .attach m o =>
    let (s, r) := k.registry.attach id (k.fields id) m o
    (.attached s, { k with registry := r })
  | .attachThenSetMask m o definition =>
    let (s, r) := k.registry.attach id (k.fields id) m o
    (.attached (s.setMask definition), { k with registry := r.set id (s.setMask definition) })
  | .detach =>
    let (s, r) := k.registry.detach id
    (.detached s, { k with registry := r })
  | .notify =>
    let (changed, r, field) := k.registry.notify id (k.fields id)
    (.notified changed, ⟨r, Function.update k.fields id field⟩)
  | .get => (.found (k.registry.get? id), k)
  | .edit change =>
    (.edited, { k with fields := Function.update k.fields id (change (k.fields id)) })

/-- The answers to some requests, each with the identity it is for, and the desk they lead to. -/
def run (k : Desk) : List (String × Request) → List (String × Reply) × Desk
  | [] => ([], k)
  | (id, q) :: requests =>
    let rest := (k.ask id q).2.run requests
    ((id, (k.ask id q).1) :: rest.1, rest.2)

def cell (k : Desk) (id : String) : Cell := ⟨k.registry.get? id, k.fields id⟩

end Desk

/-- What a request answers and does when there is no other identity. -/
def Cell.ask (c : Cell) : Request → Reply × Cell
  | .attach m o =>
    let s := c.session.getD (.attach c.field m o)
    (.attached s, { c with session := some s })
  | .attachThenSetMask m o definition =>
    let s := (c.session.getD (.attach c.field m o)).setMask definition
    (.attached s, { c with session := some s })
  | .detach => (.detached c.session, { c with session := none })
  | .notify =>
    match c.session with
    | none => (.notified false, c)
    | some s =>
      let (changed, s, field) := s.notify c.field
      (.notified changed, ⟨some s, field⟩)
  | .get => (.found c.session, c)
  | .edit change => (.edited, { c with field := change c.field })

namespace Desk

variable {k k' : Desk} {id other : String}

/-- The answer to a request is that of its cell. -/
theorem fst_ask (k : Desk) (id : String) (q : Request) :
    (k.ask id q).1 = ((k.cell id).ask q).1 := by
  cases q with
  | attach m o =>
      have hfst := attach_fst k.registry id (k.fields id) m o
      simp only [ask, Cell.ask, cell, hfst]
  | attachThenSetMask m o definition =>
      have hfst := attach_fst k.registry id (k.fields id) m o
      simp only [ask, Cell.ask, cell, hfst]
  | detach => rfl
  | notify =>
      simp only [ask, Cell.ask, cell, Registry.notify]
      cases k.registry.get? id <;> rfl
  | get => rfl
  | edit change => rfl

theorem cell_ask_self (k : Desk) (id : String) (q : Request) :
    (k.ask id q).2.cell id = ((k.cell id).ask q).2 := by
  cases q with
  | attach m o =>
      have hfst := attach_fst k.registry id (k.fields id) m o
      have hget := get?_attach k.registry id (k.fields id) m o id
      simp only [ask, Cell.ask, cell, hget, hfst, if_true]
  | attachThenSetMask m o definition =>
      have hfst := attach_fst k.registry id (k.fields id) m o
      have hget := get?_attach k.registry id (k.fields id) m o id
      simp only [ask, Cell.ask, cell, get?_set, hget, hfst, if_true, Option.map_some]
  | detach =>
      have hget := get?_detach k.registry id id
      simp only [ask, Cell.ask, cell, hget, if_true]
  | notify =>
      simp only [ask, Cell.ask, cell, Registry.notify]
      cases hs : k.registry.get? id with
      | none => simp [hs]
      | some s => simp [get?_set, hs]
  | get => rfl
  | edit change => simp only [ask, Cell.ask, cell, Function.update_self]

theorem cell_ask_of_ne (h : other ≠ id) (q : Request) : (k.ask id q).2.cell other = k.cell other := by
  cases q with
  | attach m o =>
      have hget := get?_attach k.registry id (k.fields id) m o other
      simp only [ask, cell, hget, if_neg h]
  | attachThenSetMask m o definition =>
      have hget := get?_attach k.registry id (k.fields id) m o other
      simp only [ask, cell, get?_set, hget, if_neg h]
  | detach =>
      have hget := get?_detach k.registry id other
      simp only [ask, cell, hget, if_neg h]
  | notify =>
      simp only [ask, cell, Registry.notify]
      cases k.registry.get? id with
      | none => simp [h]
      | some s => simp [get?_set, h]
  | get => rfl
  | edit change => simp only [ask, cell, Function.update_of_ne h]

theorem snd_run_append (k : Desk) (requests : List (String × Request)) (x : String × Request) :
    (k.run (requests ++ [x])).2 = ((k.run requests).2.ask x.1 x.2).2 := by
  induction requests generalizing k with
  | nil => rfl
  | cons request requests ih => exact ih _

/-- From desks that agree on a cell, a run and the requests of its identity alone get the same
answers for it and leave the same cell. -/
theorem run_filter (h : k.cell id = k'.cell id) (requests : List (String × Request)) :
    (k.run requests).1.filter (·.1 = id) = (k'.run (requests.filter (·.1 = id))).1 ∧
    (k.run requests).2.cell id = (k'.run (requests.filter (·.1 = id))).2.cell id := by
  induction requests generalizing k k' with
  | nil => exact ⟨rfl, h⟩
  | cons x requests ih =>
      obtain ⟨owner, q⟩ := x
      by_cases hid : owner = id
      · subst hid
        have hreply : (k.ask owner q).1 = (k'.ask owner q).1 := by
          rw [fst_ask, fst_ask, h]
        have hcell : (k.ask owner q).2.cell owner = (k'.ask owner q).2.cell owner := by
          rw [cell_ask_self, cell_ask_self, h]
        obtain ⟨hreplies, hlast⟩ := ih hcell
        rw [run, List.filter_cons_of_pos (by simp), List.filter_cons_of_pos (by simp), run]
        exact ⟨by rw [hreply, hreplies], hlast⟩
      · have hcell : (k.ask owner q).2.cell id = k'.cell id := by
          rw [cell_ask_of_ne (Ne.symm hid), h]
        rw [run, List.filter_cons_of_neg (by simpa using hid),
          List.filter_cons_of_neg (by simpa using hid)]
        exact ih hcell

end Desk

/-! ### Who is attached -/

/-- An identity has been attached and not been detached since. -/
def Attached (requests : List (String × Request)) (id : String) : Prop :=
  Since (fun _ x => x.1 = id ∧ x.2.attaches = true) (fun _ x => x = (id, .detach)) requests

theorem Cell.isSome_ask (c : Cell) (q : Request) :
    (c.ask q).2.session.isSome = true ↔
      q.attaches = true ∨ c.session.isSome = true ∧ q ≠ .detach := by
  cases q with
  | notify =>
      rw [Cell.ask]
      cases hs : c.session with
      | none => simp [hs, Request.attaches]
      | some s => simp [Request.attaches]
  | _ => simp [Cell.ask, Request.attaches]

namespace Desk

theorem isSome_ask (k : Desk) (x : String × Request) (id : String) :
    ((k.ask x.1 x.2).2.registry.get? id).isSome = true ↔
      (x.1 = id ∧ x.2.attaches = true) ∨
      (k.registry.get? id).isSome = true ∧ ¬x = (id, .detach) := by
  obtain ⟨owner, q⟩ := x
  by_cases hid : owner = id
  · subst hid
    have hsession : (k.ask owner q).2.registry.get? owner = ((k.cell owner).ask q).2.session :=
      congrArg Cell.session (cell_ask_self k owner q)
    rw [hsession, Cell.isSome_ask]
    simp [cell]
  · have hsession : (k.ask owner q).2.registry.get? id = k.registry.get? id :=
      congrArg Cell.session (cell_ask_of_ne (Ne.symm hid) q)
    rw [hsession]
    simp [hid]

/-- A desk without sessions. -/
def opened (fields : String → LineBuffer) : Desk := ⟨.empty, fields⟩

theorem isSome_run_iff (fields : String → LineBuffer) (requests : List (String × Request))
    (id : String) :
    (((opened fields).run requests).2.registry.get? id).isSome = true ↔ Attached requests id := by
  refine iff_since (P := fun past => (((opened fields).run past).2.registry.get? id).isSome = true)
    ?_ (fun past x => ?_) requests
  · simp [run, opened, get?, Registry.empty]
  · rw [snd_run_append]
    exact isSome_ask _ x id

/-- **Identities are isolated.** An identity gets the answers, the session and the field that its own
requests get on an empty registry, whatever comes for others in between. The registry is as large as
there are identities that were attached and not detached since; to attach one of them again changes
nothing, and to attach another one starts from its mask, options and the present text. -/
theorem isolated (fields : String → LineBuffer) (requests : List (String × Request))
    (id : String) :
    let full := (opened fields).run requests
    let own := (opened fields).run (requests.filter (·.1 = id))
    full.1.filter (·.1 = id) = own.1 ∧
    full.2.registry.get? id = own.2.registry.get? id ∧ full.2.fields id = own.2.fields id ∧
    (∃ ids : Finset String, ids.card = full.2.registry.size ∧
      ∀ i, i ∈ ids ↔ Attached requests i) ∧
    (Attached requests id → ∃ s, full.2.registry.get? id = some s ∧
      ∀ m o, full.2.ask id (.attach m o) = (.attached s, full.2)) ∧
    (¬Attached requests id → ∀ m o,
      let s : Session := ⟨m, (full.2.fields id).text, o.caseSensitive⟩
      let asked := full.2.ask id (.attach m o)
      asked.1 = .attached s ∧ asked.2.registry.get? id = some s) := by
  intro full own
  have hstart : (opened fields).cell id = (opened fields).cell id := rfl
  obtain ⟨hreplies, hcell⟩ := run_filter hstart requests
  have hattached := isSome_run_iff fields requests
  refine ⟨hreplies, congrArg Cell.session hcell, congrArg Cell.field hcell,
    ⟨_, card_ids full.2.registry, fun i => (mem_ids_iff _ i).trans (hattached i)⟩,
    fun h => ?_, fun h m o => ?_⟩
  · obtain ⟨s, hs⟩ := Option.isSome_iff_exists.1 ((hattached id).2 h)
    refine ⟨s, hs, fun m o => ?_⟩
    have hattach := attach_of_some hs (full.2.fields id) m o
    rw [ask, hattach]
  · have hnone : full.2.registry.get? id = none := by
      rw [← Option.not_isSome_iff_eq_none]
      exact mt (hattached id).1 h
    obtain ⟨hfst, -⟩ := attach_of_none hnone (full.2.fields id) m o
    have hget := get?_attach full.2.registry id (full.2.fields id) m o id
    rw [if_pos rfl, hfst] at hget
    exact ⟨congrArg Reply.attached hfst, hget⟩

/-- A detached identity starts anew, and its neighbour does not notice. -/
theorem isolated_from_detached :
    let o : MaskOptions := ⟨false⟩
    let requests : List (String × Request) :=
      [("zip", .attach (.compile "99999".toList) o), ("date", .attach (.compile "99/99".toList) o),
        ("zip", .edit (·.insert '7')), ("date", .detach), ("zip", .notify),
        ("date", .edit (·.insert 'x'))]
    let full := (opened fun _ => .empty).run requests
    let own := (opened fun _ => .empty).run (requests.filter (·.1 = "zip"))
    Attached requests "zip" ∧ ¬Attached requests "date" ∧ full.2.registry.size = 1 ∧
    full.1.filter (·.1 = "zip") = own.1 ∧ (own.2.fields "zip").text = "7".toList ∧
    (full.2.ask "date" (.attach (.compile "a".toList) o)).1 =
      .attached ⟨.compile "a".toList, "x".toList, false⟩ := by
  intro o requests full own
  have hzip : Attached requests "zip" :=
    (isSome_run_iff (fun _ => .empty) requests "zip").1 (by decide +kernel)
  have hdate : ¬Attached requests "date" :=
    mt (isSome_run_iff (fun _ => .empty) requests "date").2 (by decide +kernel)
  obtain ⟨hreplies, -⟩ := isolated (fun _ => .empty) requests "zip"
  obtain ⟨-, -, -, -, -, hfresh⟩ := isolated (fun _ => .empty) requests "date"
  obtain ⟨hattach, -⟩ := hfresh hdate (.compile "a".toList) o
  have htext : (full.2.fields "date").text = "x".toList := by decide +kernel
  rw [htext] at hattach
  exact ⟨hzip, hdate, by decide +kernel, hreplies, by decide +kernel, hattach⟩

end Desk

end Registry

end MaskedInput
