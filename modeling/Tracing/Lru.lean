/-!
# Tracing.Lru

A cache in order of use: its entries stand from the least to the most recently used.

* `find?`   — the value kept for a key.
* `touch`   — make the entry of a key the most recently used one.
* `push`    — add an entry for a new key, the most recently used one.
* `dropOldest` — what is left without the least recently used entry.
-/

namespace Tracing

structure Lru (κ ν : Type) where
  entries : List (κ × ν) := []

namespace Lru

variable {κ ν : Type}

def keys (c : Lru κ ν) : List κ := c.entries.map (·.1)

def size (c : Lru κ ν) : Nat := c.entries.length

def push (c : Lru κ ν) (key : κ) (value : ν) : Lru κ ν := ⟨c.entries ++ [(key, value)]⟩

def oldest? (c : Lru κ ν) : Option ν := c.entries.head?.map (·.2)

def dropOldest (c : Lru κ ν) : Lru κ ν := ⟨c.entries.tail⟩

@[simp] theorem size_push (c : Lru κ ν) (key : κ) (value : ν) :
    (c.push key value).size = c.size + 1 := by
  simp [size, push]

@[simp] theorem keys_push (c : Lru κ ν) (key : κ) (value : ν) :
    (c.push key value).keys = c.keys ++ [key] := by
  simp [keys, push]

variable [DecidableEq κ]

def find? (c : Lru κ ν) (key : κ) : Option ν := c.entries.lookup key

theorem mem_of_find? {c : Lru κ ν} {key : κ} {value : ν} (h : c.find? key = some value) :
    (key, value) ∈ c.entries := by
  obtain ⟨before, after, he, -⟩ := List.lookup_eq_some_iff.mp h
  simp [he]

/-- Entries of other keys keep their order. -/
def touch (c : Lru κ ν) (key : κ) : Lru κ ν :=
  ⟨c.entries.filter (·.1 ≠ key) ++ c.entries.filter (·.1 = key)⟩

theorem mem_of_mem_touch {c : Lru κ ν} {key : κ} {e : κ × ν} (h : e ∈ (c.touch key).entries) :
    e ∈ c.entries := by
  rcases List.mem_append.mp h with h | h
  · exact (List.mem_filter.mp h).1
  · exact (List.mem_filter.mp h).1

theorem keys_touch (c : Lru κ ν) (key : κ) :
    (c.touch key).keys = c.keys.filter (· ≠ key) ++ c.keys.filter (· = key) := by
  simp [keys, touch, List.filter_map, Function.comp_def]

theorem size_touch (c : Lru κ ν) (key : κ) : (c.touch key).size = c.size := by
  have split := List.length_eq_countP_add_countP (·.1 ≠ key) (l := c.entries)
  simp [size, touch, ← List.countP_eq_length_filter, split]

end Lru

end Tracing
