/-!
# Tracing.Store

Objects with an identity: a store hands out a reference for each object added, and an object may
change while its references stay good. Objects are never removed.

* `get?_add_self`, `get?_add_of_lt` — a new object is found, and the old ones where they were.
* `get?_modify_self`, `get?_modify_ne` — a change is seen by the object's own reference alone.
* `get` — the object of a reference; one that reaches nothing gives the default object.
-/

namespace Tracing

/-- A reference to an object of a store. -/
structure Ref (α : Type) where
  index : Nat
  deriving Repr

instance {α : Type} : DecidableEq (Ref α) := fun a b =>
  decidable_of_iff (a.index = b.index)
    ⟨fun h => by cases a; cases b; simp_all, fun h => by rw [h]⟩

structure Store (α : Type) where
  items : List α := []

namespace Store

variable {α : Type}

def size (s : Store α) : Nat := s.items.length

def get? (s : Store α) (r : Ref α) : Option α := s.items[r.index]?

/-- Whether a reference reaches an object. -/
def Has (s : Store α) (r : Ref α) : Prop := r.index < s.size

/-- The reference that the next object added will have. -/
def next (s : Store α) : Ref α := ⟨s.size⟩

def add (s : Store α) (a : α) : Store α := ⟨s.items ++ [a]⟩

def modify (s : Store α) (r : Ref α) (f : α → α) : Store α := ⟨s.items.modify r.index f⟩

@[simp] theorem size_add (s : Store α) (a : α) : (s.add a).size = s.size + 1 := by
  simp [size, add]

@[simp] theorem size_modify (s : Store α) (r : Ref α) (f : α → α) :
    (s.modify r f).size = s.size := by
  simp [size, modify]

@[simp] theorem get?_add_self (s : Store α) (a : α) : (s.add a).get? s.next = some a := by
  simp [get?, add, next, size]

theorem get?_add_of_lt (s : Store α) (a : α) {r : Ref α} (h : r.index < s.size) :
    (s.add a).get? r = s.get? r := by
  simp only [get?, add]
  exact List.getElem?_append_left h

@[simp] theorem get?_modify_self (s : Store α) (r : Ref α) (f : α → α) :
    (s.modify r f).get? r = (s.get? r).map f := by
  simp [get?, modify]

theorem get?_modify_ne (s : Store α) {r t : Ref α} (f : α → α) (h : t ≠ r) :
    (s.modify r f).get? t = s.get? t := by
  have hne : ¬ r.index = t.index := by
    intro e
    apply h
    cases t
    cases r
    simp_all
  simp [get?, modify, hne]

def get [Inhabited α] (s : Store α) (r : Ref α) : α := (s.get? r).getD default

theorem get_of_not_has [Inhabited α] {s : Store α} {r : Ref α} (h : ¬ s.Has r) :
    s.get r = default := by
  have hn : s.get? r = none := List.getElem?_eq_none (Nat.le_of_not_lt h)
  simp [get, hn]

theorem get_modify_ne [Inhabited α] (s : Store α) {r t : Ref α} (f : α → α)
    (h : t ≠ r) : (s.modify r f).get t = s.get t := by
  simp [get, get?_modify_ne s f h]

theorem get_modify_self [Inhabited α] (s : Store α) {r : Ref α} (f : α → α)
    (h : r.index < s.size) : (s.modify r f).get r = f (s.get r) := by
  have hs : s.get? r = some s.items[r.index] := List.getElem?_eq_getElem h
  simp [get, hs]

theorem get_modify_of_not_has [Inhabited α] (s : Store α) {r : Ref α} (f : α → α)
    (h : ¬ s.Has r) : (s.modify r f).get r = s.get r := by
  have h' : ¬ (s.modify r f).Has r := by simpa [Has] using h
  rw [get_of_not_has h, get_of_not_has h']

/-- An object that is not there counts as the default one, which must not change then. -/
theorem get_modify_const [Inhabited α] (s : Store α) (r : Ref α) {f : α → α}
    (h : f default = default) : (s.modify r fun _ => f (s.get r)).get r = f (s.get r) := by
  by_cases hr : s.Has r
  · exact get_modify_self s _ hr
  · rw [get_modify_of_not_has s _ hr, get_of_not_has hr, h]

theorem get_modify_eq_or [Inhabited α] (s : Store α) (r t : Ref α) (f : α → α) :
    (s.modify r f).get t = s.get t ∨ t = r ∧ (s.modify r f).get t = f (s.get t) := by
  by_cases ht : t = r
  · subst ht
    by_cases h : s.Has t
    · exact .inr ⟨rfl, get_modify_self s f h⟩
    · exact .inl (get_modify_of_not_has s f h)
  · exact .inl (get_modify_ne s f ht)

/-- A change that keeps a part of an object keeps that part of all objects. -/
theorem map_get_modify [Inhabited α] {β : Type} (g : α → β) (s : Store α) (r t : Ref α)
    {f : α → α} (h : ∀ a, g (f a) = g a) : g ((s.modify r f).get t) = g (s.get t) := by
  rcases get_modify_eq_or s r t f with ht | ⟨-, ht⟩
  · rw [ht]
  · rw [ht, h]

/-- What a change makes of the object changed is all that matters of it. -/
theorem modify_congr [Inhabited α] (s : Store α) (r : Ref α) {f g : α → α}
    (h : f (s.get r) = g (s.get r)) : s.modify r f = s.modify r g := by
  have hg : ∀ i, s.items[r.index]? = some i → s.get r = i := by
    intro i hi
    simp [get, get?, hi]
  have hl : s.items.modify r.index f = s.items.modify r.index g := by
    apply List.ext_getElem?
    intro i
    by_cases hi : r.index = i
    · subst hi
      cases hc : s.items[r.index]? with
      | none => simp [hc]
      | some a =>
        rw [hg a hc] at h
        simp [hc, h]
    · simp [hi]
  simp [modify, hl]

theorem modify_modify (s : Store α) (r : Ref α) (f g : α → α) :
    (s.modify r f).modify r g = s.modify r fun a => g (f a) := by
  simp [modify, List.modify_modify_eq, Function.comp_def]

theorem modify_eq_self [Inhabited α] (s : Store α) (r : Ref α) {f : α → α}
    (h : f (s.get r) = s.get r) : s.modify r f = s := by
  have hid : s.items.modify r.index id = s.items := by
    apply List.ext_getElem?
    intro i
    simp
  rw [modify_congr s r (g := id) h]
  simp [modify, hid]

theorem get_add_self [Inhabited α] (s : Store α) (a : α) : (s.add a).get s.next = a := by
  simp [get]

theorem get_add_of_ne [Inhabited α] (s : Store α) (a : α) {r : Ref α} (h : r ≠ s.next) :
    (s.add a).get r = s.get r := by
  by_cases hr : r.index < s.size
  · simp [get, get?_add_of_lt s a hr]
  · have hne : r.index ≠ s.size := by
      intro e
      apply h
      cases r
      simp_all [next]
    have hs : s.size < r.index := by omega
    have hn : (s.add a).get? r = none := List.getElem?_eq_none (by simp [add, size] at *; omega)
    have hn' : s.get? r = none := List.getElem?_eq_none (Nat.le_of_not_lt hr)
    simp [get, hn, hn']

theorem has_add_iff {s : Store α} {a : α} {r : Ref α} (h : r ≠ s.next) :
    (s.add a).Has r ↔ s.Has r := by
  have hne : r.index ≠ s.size := by
    intro e
    apply h
    cases r
    simp_all [next]
  simp only [Has, size_add]
  omega

theorem get_add_of_lt [Inhabited α] (s : Store α) (a : α) {r : Ref α} (h : r.index < s.size) :
    (s.add a).get r = s.get r := by
  simp [get, get?_add_of_lt s a h]

end Store

end Tracing
