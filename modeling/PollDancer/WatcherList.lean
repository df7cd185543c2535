/-
# The loop's watcher list

`pd_loop_add_watcher` and `pd_loop_remove_watcher` of `src/loop.c` on the array
`loop->watchers`: a growable array whose first `watcher_count` slots are in use.
The occupied slots are the list the rest of the library means
(`PdLoop.occupied`): a successful add appends to it (`occupied_add`), a
successful remove erases the first occurrence (`occupied_remove`).
-/
import PollDancer.Types
import PollDancer.Library.Slots

namespace PollDancer

open Library

/-- The part of `struct pd_loop` that manages its lifetime and its watchers.
`watcher_capacity` is the length of the allocated array; that the occupied slots
fit into it, and that it has slots, is part of the structure.  `ref_count` is an `int`; more
than 2^31 - 1 references, which would overflow it, are left out. -/
structure PdLoop where
  refCount : ℤ
  watchers : List Addr
  watcherCount : ℕ
  count_le : watcherCount ≤ watchers.length
  capacity_pos : 0 < watchers.length

namespace PdLoop

/-- `loop->watcher_capacity`. -/
def watcherCapacity (l : PdLoop) : ℕ := l.watchers.length

/-- The watchers of the loop, in order. -/
def occupied (l : PdLoop) : List Addr := l.watchers.take l.watcherCount

@[simp]
theorem length_occupied (l : PdLoop) : l.occupied.length = l.watcherCount := by
  rw [occupied, List.length_take, Nat.min_eq_left l.count_le]

/-- A fresh loop of `pd_loop_create`: sixteen slots, all unused. -/
def create : PdLoop where
  refCount := 1
  watchers := List.replicate 16 NULL
  watcherCount := 0
  count_le := Nat.zero_le _
  capacity_pos := by simp

/-- The array after the growth step of `pd_loop_add_watcher`: twice the slots,
the new ones not yet written. -/
def grown (l : PdLoop) : List Addr :=
  l.watchers ++ List.replicate (l.watcherCapacity * 2 - l.watcherCapacity) NULL

/-- `watchers[watcher_count++] = w` in an array with room. -/
def push (l : PdLoop) (slots : List Addr) (w : Addr) (h : l.watcherCount < slots.length) :
    PdLoop where
  refCount := l.refCount
  watchers := slots.set l.watcherCount w
  watcherCount := l.watcherCount + 1
  count_le := by rw [List.length_set]; exact h
  capacity_pos := by rw [List.length_set]; omega

theorem count_lt_length_grown (l : PdLoop) : l.watcherCount < l.grown.length := by
  have h₁ := l.count_le
  have h₂ := l.capacity_pos
  rw [grown, List.length_append, List.length_replicate, watcherCapacity]
  omega

theorem occupied_push (l : PdLoop) (slots : List Addr) (w : Addr)
    (h : l.watcherCount < slots.length) (hs : slots.take l.watcherCount = l.occupied) :
    (l.push slots w h).occupied = l.occupied ++ [w] := by
  simp only [push, occupied]
  rw [List.take_set, List.take_add_one, List.getElem?_eq_getElem h, Option.toList_some,
    List.set_append_right _ _ (by rw [List.length_take]; omega), hs, length_occupied, Nat.sub_self,
    List.set_cons_zero, occupied]

end PdLoop

/-- `pd_loop_add_watcher`.  `grow` is the answer of `realloc` when the array is
full. -/
def pdLoopAddWatcher (l : PdLoop) (w : Addr) (grow : Bool) : PdLoop × PdError :=
  if w = NULL then (l, .invalidArg)
  else if h : l.watcherCount ≥ l.watcherCapacity then
    if grow then (l.push l.grown w l.count_lt_length_grown, .ok) else (l, .noMemory)
  else (l.push l.watchers w (Nat.lt_of_not_le h), .ok)

/-- The array after slot `i` was found to hold the watcher: the later slots are
shifted left in place and the count drops. -/
def PdLoop.removeAt (l : PdLoop) (i : ℕ) : PdLoop where
  refCount := l.refCount
  watchers := shiftLeft NULL l.watchers i (l.watcherCount - 1 - i)
  watcherCount := l.watcherCount - 1
  count_le := by rw [length_shiftLeft]; exact Nat.le_trans (Nat.sub_le _ _) l.count_le
  capacity_pos := by rw [length_shiftLeft]; exact l.capacity_pos

/-- `pd_loop_remove_watcher`: search the occupied slots, then shift. -/
def pdLoopRemoveWatcher (l : PdLoop) (w : Addr) : PdLoop × PdError :=
  if w = NULL then (l, .invalidArg)
  else match l.occupied.findIdx? (· == w) with
    | none => (l, .notFound)
    | some i => (l.removeAt i, .ok)

namespace PdLoop

variable {l : PdLoop} {w : Addr}

theorem occupied_removeAt {i : ℕ} (h : i < l.watcherCount) :
    (l.removeAt i).occupied = l.occupied.eraseIdx i :=
  take_shiftLeft NULL h l.count_le

/-- A successful add appends the watcher. -/
theorem occupied_add {grow : Bool} (h : (pdLoopAddWatcher l w grow).2 = .ok) :
    (pdLoopAddWatcher l w grow).1.occupied = l.occupied ++ [w] := by
  revert h
  unfold pdLoopAddWatcher
  split_ifs with hw hfull hg
  · exact fun h => nomatch h
  · intro _
    refine l.occupied_push _ _ l.count_lt_length_grown ?_
    rw [grown, List.take_append_of_le_length l.count_le, occupied]
  · exact fun h => nomatch h
  · exact fun _ => l.occupied_push _ _ (Nat.lt_of_not_le hfull) rfl

/-- A failed add changes nothing. -/
theorem add_of_ne_ok {grow : Bool} (h : (pdLoopAddWatcher l w grow).2 ≠ .ok) :
    (pdLoopAddWatcher l w grow).1 = l := by
  revert h
  unfold pdLoopAddWatcher
  split_ifs <;> simp

/-- Removal erases the first occurrence of the watcher from the list. -/
theorem occupied_remove (hw : w ≠ NULL) :
    (pdLoopRemoveWatcher l w).1.occupied = l.occupied.erase w := by
  rw [pdLoopRemoveWatcher, if_neg hw, List.erase_eq_eraseIdx, List.idxOf?]
  cases hi : l.occupied.findIdx? (· == w) with
  | none => rfl
  | some i =>
      obtain ⟨hlt, -⟩ := List.findIdx?_eq_some_iff_getElem.1 hi
      exact occupied_removeAt (by simpa using hlt)

/-- Removal reports success exactly for the watchers of the list. -/
theorem remove_eq_ok_iff (hw : w ≠ NULL) :
    (pdLoopRemoveWatcher l w).2 = .ok ↔ w ∈ l.occupied := by
  rw [pdLoopRemoveWatcher, if_neg hw]
  cases hi : l.occupied.findIdx? (· == w) with
  | none =>
      rw [List.findIdx?_eq_none_iff] at hi
      constructor
      · exact fun h => nomatch h
      · exact fun h => absurd (hi w h) (by simp)
  | some i =>
      obtain ⟨hlt, hp, -⟩ := List.findIdx?_eq_some_iff_getElem.1 hi
      exact iff_of_true rfl (eq_of_beq hp ▸ List.getElem_mem hlt)

theorem ne_null_of_remove (h : (pdLoopRemoveWatcher l w).2 = .ok) : w ≠ NULL := by
  rintro rfl
  rw [pdLoopRemoveWatcher, if_pos rfl] at h
  nomatch h

/-- A failed remove changes nothing. -/
theorem remove_of_ne_ok (h : (pdLoopRemoveWatcher l w).2 ≠ .ok) :
    (pdLoopRemoveWatcher l w).1 = l := by
  revert h
  unfold pdLoopRemoveWatcher
  split_ifs
  · simp
  · cases l.occupied.findIdx? (· == w) <;> simp

/-- Removal reports that there is no such watcher exactly if it is not in the list. -/
theorem remove_eq_notFound_iff :
    (pdLoopRemoveWatcher l w).2 = .notFound ↔ w ≠ NULL ∧ w ∉ l.occupied := by
  by_cases hw : w = NULL
  · simp [pdLoopRemoveWatcher, hw]
  · rw [← remove_eq_ok_iff hw, pdLoopRemoveWatcher, if_neg hw]
    cases l.occupied.findIdx? (· == w) <;> simp [hw]

@[simp]
theorem refCount_add (l : PdLoop) (w : Addr) (grow : Bool) :
    (pdLoopAddWatcher l w grow).1.refCount = l.refCount := by
  unfold pdLoopAddWatcher
  split_ifs <;> rfl

@[simp]
theorem refCount_remove (l : PdLoop) (w : Addr) :
    (pdLoopRemoveWatcher l w).1.refCount = l.refCount := by
  unfold pdLoopRemoveWatcher
  split_ifs
  · rfl
  · split <;> rfl

end PdLoop
end PollDancer
