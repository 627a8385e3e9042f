import Mathlib.Data.List.Dedup
import Mathlib.Data.List.DropRight
import Tracing.Lru

/-!
# Tracing.Proofs.Recency

Keys in the order in which they were used last, and a cache that keeps the most recent of them.

* `recent n keys`  — the `n` keys used last, each once, from the one used longest ago on.
* `lookups n keys` — for each use of a key, whether it was among the `n` keys used last before.
* `recent_concat_of_mem`, `recent_concat_of_notMem` — one more use.
* `Lru.touch_recent`, `Lru.push_recent` — a cache follows them.
-/

namespace Tracing

variable {κ : Type} [DecidableEq κ]

/-- Without the earlier uses of keys that are used again, the last `n` uses. -/
def recent (n : Nat) (keys : List κ) : List κ := keys.dedup.rtake n

/-- Whether the use at `i` is of a key that was among the `n` keys used last before. -/
def isLookupHit (n : Nat) (keys : List κ) (i : Nat) : Bool :=
  keys[i]?.any (· ∈ recent n (keys.take i))

def lookups (n : Nat) (keys : List κ) : List Bool :=
  (List.range keys.length).map (isLookupHit n keys)

/-! ## The keys used last -/

@[simp] theorem recent_nil (n : Nat) : recent n ([] : List κ) = [] := by simp [recent]

@[simp] theorem lookups_nil (n : Nat) : lookups n ([] : List κ) = [] := rfl

theorem dedup_concat (keys : List κ) (key : κ) :
    (keys ++ [key]).dedup = keys.dedup.filter (· ≠ key) ++ [key] := by
  induction keys with
  | nil => simp
  | cons k rest ih =>
    by_cases hk : k = key
    · subst hk
      have hmem : k ∈ rest ++ [k] := by simp
      rw [List.cons_append, List.dedup_cons_of_mem hmem, ih, List.dedup_cons]
      split <;> simp
    · by_cases hmem : k ∈ rest
      · have hmem' : k ∈ rest ++ [key] := List.mem_append_left _ hmem
        rw [List.cons_append, List.dedup_cons_of_mem hmem', ih, List.dedup_cons_of_mem hmem]
      · have hmem' : k ∉ rest ++ [key] := by simp [hmem, hk]
        rw [List.cons_append, List.dedup_cons_of_notMem hmem', ih, List.dedup_cons_of_notMem hmem]
        simp [hk]

/-- The last entries of a list are as many as asked for, or all of them. -/
theorem exists_rtake {α : Type} (n : Nat) (l : List α) :
    ∃ before, l = before ++ l.rtake n ∧ (before = [] ∨ (l.rtake n).length = n) := by
  refine ⟨l.take (l.length - n), (List.take_append_drop _ _).symm, ?_⟩
  rw [List.rtake, List.length_drop]
  by_cases h : l.length ≤ n
  · left
    simp [Nat.sub_eq_zero_of_le h]
  · right
    omega

theorem rtake_of_length_le {α : Type} {n : Nat} {l : List α} (h : l.length ≤ n) :
    l.rtake n = l := by
  rw [List.rtake, Nat.sub_eq_zero_of_le h, List.drop_zero]

theorem rtake_append {α : Type} {n : Nat} {a b : List α} (h : a = [] ∨ n ≤ b.length) :
    (a ++ b).rtake n = b.rtake n := by
  rcases h with rfl | h
  · rfl
  · have hdrop : (a ++ b).length - n = a.length + (b.length - n) := by
      rw [List.length_append]
      omega
    rw [List.rtake, List.rtake, hdrop, List.drop_append]
    simp

theorem recent_nodup (n : Nat) (keys : List κ) : (recent n keys).Nodup :=
  (List.nodup_dedup keys).sublist (List.drop_sublist _ _)

theorem length_recent (n : Nat) (keys : List κ) :
    (recent n keys).length = min n keys.dedup.length := by
  rw [recent, List.rtake, List.length_drop]
  omega

theorem filter_ne_of_notMem {l : List κ} {key : κ} (h : key ∉ l) : l.filter (· ≠ key) = l := by
  rw [List.filter_eq_self]
  intro k hk
  simpa using ne_of_mem_of_not_mem hk h

theorem length_filter_ne {l : List κ} {key : κ} (hl : l.Nodup) (h : key ∈ l) :
    (l.filter (· ≠ key)).length + 1 = l.length := by
  have herase : l.erase key = l.filter (· ≠ key) := by
    rw [hl.erase_eq_filter]
    exact List.filter_congr fun k _ => Bool.eq_iff_iff.mpr (by simp)
  rw [← herase, List.length_erase_of_mem h]
  exact Nat.sub_add_cancel (List.length_pos_of_mem h)

theorem recent_concat (n : Nat) (keys : List κ) (key : κ) :
    recent (n + 1) (keys ++ [key]) =
      ((recent (n + 1) keys).filter (· ≠ key)).rtake n ++ [key] := by
  obtain ⟨before, hsplit, hbefore⟩ := exists_rtake (n + 1) keys.dedup
  rw [← recent] at hsplit hbefore
  have nodup := recent_nodup (n + 1) keys
  rw [recent, dedup_concat, List.rtake_concat_succ, hsplit, List.filter_append, rtake_append]
  rcases hbefore with rfl | hlen
  · exact .inl rfl
  · right
    by_cases h : key ∈ recent (n + 1) keys
    · have := length_filter_ne nodup h
      omega
    · rw [filter_ne_of_notMem h]
      omega

/-- A key that is recent becomes the last one, and no other key goes. -/
theorem recent_concat_of_mem {n : Nat} {keys : List κ} {key : κ} (h : key ∈ recent (n + 1) keys) :
    recent (n + 1) (keys ++ [key]) = (recent (n + 1) keys).filter (· ≠ key) ++ [key] := by
  have hlen := length_filter_ne (recent_nodup (n + 1) keys) h
  have hle := length_recent (n + 1) keys
  rw [recent_concat, rtake_of_length_le (by omega)]

/-- A key that is not recent becomes the last one; the oldest key goes if there are too many. -/
theorem recent_concat_of_notMem {n : Nat} {keys : List κ} {key : κ}
    (h : key ∉ recent (n + 1) keys) :
    recent (n + 1) (keys ++ [key]) = (recent (n + 1) keys ++ [key]).rtake (n + 1) := by
  rw [recent_concat, filter_ne_of_notMem h, List.rtake_concat_succ]

/-! ## Hits and misses -/

theorem lookups_concat (n : Nat) (keys : List κ) (key : κ) :
    lookups n (keys ++ [key]) = lookups n keys ++ [decide (key ∈ recent n keys)] := by
  have early : ∀ i ∈ List.range keys.length,
      isLookupHit n (keys ++ [key]) i = isLookupHit n keys i := by
    intro i hi
    have hlt := List.mem_range.mp hi
    rw [isLookupHit, isLookupHit, List.getElem?_append_left hlt,
      List.take_append_of_le_length (Nat.le_of_lt hlt)]
  have last : isLookupHit n (keys ++ [key]) keys.length = decide (key ∈ recent n keys) := by
    simp [isLookupHit]
  rw [lookups, List.length_append, List.length_singleton, List.range_succ, List.map_append,
    List.map_congr_left early, List.map_singleton, last, lookups]

/-! ## A cache of the keys used last -/

namespace Lru

variable {ν : Type} {c : Lru κ ν} {n : Nat} {keys : List κ} {key : κ}

theorem find?_isSome (c : Lru κ ν) (key : κ) : (c.find? key).isSome ↔ key ∈ c.keys := by
  rw [find?, Lru.keys]
  generalize c.entries = entries
  induction entries with
  | nil => simp
  | cons e rest ih =>
    obtain ⟨k, v⟩ := e
    by_cases hk : key = k
    · simp [hk]
    · have hne : (key == k) = false := by simpa using hk
      simp [List.lookup_cons, hne, hk, ih]

theorem touch_recent (h : c.keys = recent (n + 1) keys) (hk : key ∈ c.keys) :
    (c.touch key).keys = recent (n + 1) (keys ++ [key]) := by
  have last : c.keys.filter (· = key) = [key] := by
    have nodup : c.keys.Nodup := h ▸ recent_nodup _ _
    rw [List.filter_eq, List.count_eq_one_of_mem nodup hk, List.replicate_one]
  rw [keys_touch, last, h, recent_concat_of_mem (h ▸ hk)]

theorem push_recent (h : c.keys = recent (n + 1) keys) (hk : key ∉ c.keys) (v : ν) :
    (c.push key v).keys.drop (c.size + 1 - (n + 1)) = recent (n + 1) (keys ++ [key]) := by
  have size : c.size = c.keys.length := by simp [Lru.size, Lru.keys]
  rw [recent_concat_of_notMem (h ▸ hk), ← h, List.rtake, keys_push, size, List.length_append,
    List.length_singleton]

end Lru

end Tracing
