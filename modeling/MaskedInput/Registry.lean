import MaskedInput.Session

/-! Sessions by the identity of their field. Every identity has at most one session. -/

namespace MaskedInput

structure Registry where
  sessions : List (String × Session)
  distinct : (sessions.map Prod.fst).Nodup
  deriving Repr

namespace Registry

variable {φ : Type} [TextField φ]

def empty : Registry := ⟨[], List.nodup_nil⟩

def get? (r : Registry) (id : String) : Option Session := r.sessions.lookup id

def size (r : Registry) : Nat := r.sessions.length

def isEmpty (r : Registry) : Bool := r.sessions.isEmpty

/-- Exchanges the session of an identity that has one. -/
def set (r : Registry) (id : String) (s : Session) : Registry where
  sessions := r.sessions.map fun entry => if entry.1 = id then (id, s) else entry
  distinct := by
    have keys : (fun entry : String × Session =>
        (if entry.1 = id then (id, s) else entry).1) = Prod.fst := by
      funext entry
      split
      · rename_i h
        exact h.symm
      · rfl
    simpa only [List.map_map, Function.comp_def, keys] using r.distinct

theorem not_mem_of_get?_eq_none {r : Registry} {id : String} (h : r.get? id = none) :
    id ∉ r.sessions.map Prod.fst := by
  simp only [get?, List.lookup_eq_none_iff] at h
  simp only [List.mem_map, not_exists, not_and]
  rintro entry mem rfl
  simpa using h entry mem

/-- Gives an identity a session for its field, unless it has one already. -/
def attach (r : Registry) (id : String) (field : φ) (mask : Mask) (options : MaskOptions) :
    Session × Registry :=
  match h : r.get? id with
  | some s => (s, r)
  | none =>
    let s := Session.attach field mask options
    (s, { sessions := r.sessions ++ [(id, s)]
          distinct := by
            simp only [List.map_append, List.map_cons, List.map_nil]
            refine List.nodup_append.2 ⟨r.distinct, by simp, ?_⟩
            intro a mem b single
            simp only [List.mem_singleton] at single
            subst single
            exact fun eq => not_mem_of_get?_eq_none h (eq ▸ mem) })

/-- Takes the session of an identity out. -/
def detach (r : Registry) (id : String) : Option Session × Registry :=
  (r.get? id,
    { sessions := r.sessions.filter (·.1 ≠ id)
      distinct := r.distinct.sublist (List.Sublist.map _ List.filter_sublist) })

/-- Passes a change of a field on to its session, if it has one. -/
def notify (r : Registry) (id : String) (field : φ) : Bool × Registry × φ :=
  match r.get? id with
  | none => (false, r, field)
  | some s =>
    let (changed, s, field) := s.notify field
    (changed, r.set id s, field)

end Registry

end MaskedInput
