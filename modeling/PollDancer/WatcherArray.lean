/-
# The array behind the watcher list

`pd_loop_add_watcher` and `pd_loop_remove_watcher` once more, access by access: the
block of memory behind `loop->watchers`, the two `size_t` fields beside it, the search
loop, and the shift loop nested in it with its bound `watcher_count - 1`.  An access
outside the block has no result, and the counts are words that could wrap.

`Holds` relates such a record to the list of `PollDancer.WatcherList`.  A call keeps it
and always has a result (`call_holds`), so over any sequence of calls the occupied slots
are the list that the successful calls describe: `occupied_runCalls`.
-/
import Mathlib.Algebra.Group.Nat.Defs
import PollDancer.Library.Block
import PollDancer.WatcherList

namespace PollDancer

open Library

section Words

variable {i n : UInt64}

/-- A counter below a bound does not wrap. -/
theorem toNat_succ_of_lt (h : i < n) : (i + 1).toNat = i.toNat + 1 := by
  have hlt := UInt64.lt_iff_toNat_lt.1 h
  have hn := n.toNat_lt
  rw [UInt64.toNat_add, show (1 : UInt64).toNat = 1 from rfl, Nat.mod_eq_of_lt]
  omega

theorem toNat_pred_of_lt (h : i < n) : (n - 1).toNat = n.toNat - 1 := by
  have hlt := UInt64.lt_iff_toNat_lt.1 h
  have hone : (1 : UInt64) ≤ n := by
    rw [UInt64.le_iff_toNat_le, show (1 : UInt64).toNat = 1 from rfl]
    omega
  rw [UInt64.toNat_sub_of_le _ _ hone, show (1 : UInt64).toNat = 1 from rfl]

/-- The loops count up to their bound. -/
theorem sub_succ_lt_of_lt (h : i < n) : n.toNat - (i + 1).toNat < n.toNat - i.toNat := by
  have hlt := UInt64.lt_iff_toNat_lt.1 h
  rw [toNat_succ_of_lt h]
  omega

end Words

/-- `loop->watchers`, `loop->watcher_count` and `loop->watcher_capacity`. -/
structure WatcherArray where
  watchers : List Addr
  watcherCount : UInt64
  watcherCapacity : UInt64

/-- `sizeof(pd_watcher_t *)`. -/
def pointerSize : UInt64 := 8

/-- `realloc` of an array of pointers: it may refuse, and no object is larger than
`PTRDIFF_MAX` bytes.  The new slots hold what happens to be there. -/
def realloc (slots : List Addr) (bytes : UInt64) (answer : Option (ℕ → Addr)) :
    Option (List Addr) :=
  match answer with
  | none => none
  | some junk =>
      if 2 ^ 63 ≤ bytes.toNat then none
      else
        let n := (bytes / pointerSize).toNat
        some (slots.take n ++ (List.range (n - slots.length)).map junk)

/-- The list of the loop in an array of twice the size. -/
def PdLoop.extend (l : PdLoop) : PdLoop where
  refCount := l.refCount
  watchers := l.grown
  watcherCount := l.watcherCount
  count_le := Nat.le_of_lt l.count_lt_length_grown
  capacity_pos := Nat.zero_lt_of_lt l.count_lt_length_grown

theorem PdLoop.occupied_extend (l : PdLoop) : l.extend.occupied = l.occupied := by
  show l.grown.take l.watcherCount = l.watchers.take l.watcherCount
  rw [grown, List.take_append_of_le_length l.count_le]

namespace WatcherArray

/-- The array of a fresh loop, which `malloc` does not clear. -/
def create (junk : ℕ → Addr) : WatcherArray where
  watchers := (List.range 16).map junk
  watcherCount := 0
  watcherCapacity := 16

/-- `watchers[watcher_count++] = w`. -/
def put (a : WatcherArray) (w : Addr) : Option (WatcherArray × PdError) := do
  let slots ← store a.watchers a.watcherCount.toNat w
  return ({ a with watchers := slots, watcherCount := a.watcherCount + 1 }, .ok)

/-- `pd_loop_add_watcher`. -/
def pdLoopAddWatcher (a : WatcherArray) (w : Addr) (answer : Option (ℕ → Addr)) :
    Option (WatcherArray × PdError) :=
  if w = NULL then some (a, .invalidArg)
  else if a.watcherCount ≥ a.watcherCapacity then
    let newCapacity := a.watcherCapacity * 2
    match realloc a.watchers (newCapacity * pointerSize) answer with
    | none => some (a, .noMemory)
    | some newWatchers =>
        put { a with watchers := newWatchers, watcherCapacity := newCapacity } w
  else put a w

/-- `for (; j < watcher_count - 1; j++) watchers[j] = watchers[j + 1];` -/
def shiftLoop (slots : List Addr) (count j : UInt64) : Option (List Addr) :=
  if j < count - 1 then do
    let x ← slots[(j + 1).toNat]?
    let slots ← store slots j.toNat x
    shiftLoop slots count (j + 1)
  else some slots
termination_by (count - 1).toNat - j.toNat
decreasing_by exact sub_succ_lt_of_lt ‹_›

/-- The search loop from slot `i` on. -/
def searchLoop (a : WatcherArray) (w : Addr) (i : UInt64) : Option (WatcherArray × PdError) :=
  if i < a.watcherCount then do
    let x ← a.watchers[i.toNat]?
    if x = w then do
      let slots ← shiftLoop a.watchers a.watcherCount i
      return ({ a with watchers := slots, watcherCount := a.watcherCount - 1 }, .ok)
    else searchLoop a w (i + 1)
  else some (a, .notFound)
termination_by a.watcherCount.toNat - i.toNat
decreasing_by exact sub_succ_lt_of_lt ‹_›

/-- `pd_loop_remove_watcher`. -/
def pdLoopRemoveWatcher (a : WatcherArray) (w : Addr) : Option (WatcherArray × PdError) :=
  if w = NULL then some (a, .invalidArg) else searchLoop a w 0

/-- The occupied slots. -/
def occupied (a : WatcherArray) : List Addr := a.watchers.take a.watcherCount.toNat

/-- The array without its slot `i`. -/
def removeAt (a : WatcherArray) (i : ℕ) : WatcherArray where
  watchers := shiftLeft NULL a.watchers i (a.watcherCount.toNat - 1 - i)
  watcherCount := a.watcherCount - 1
  watcherCapacity := a.watcherCapacity

section Loops

variable {a : WatcherArray} {slots : List Addr} {count i j : UInt64} {w : Addr}

/-- The shift loop stays in the block, and does what `shiftLeft` does. -/
theorem shiftLoop_eq (hj : j < count) (hlen : count.toNat ≤ slots.length) :
    shiftLoop slots count j =
      some (shiftLeft NULL slots j.toNat (count.toNat - 1 - j.toNat)) := by
  induction h : count.toNat - 1 - j.toNat generalizing slots j with
  | zero =>
      have hstop : ¬ j < count - 1 := by
        rw [UInt64.lt_iff_toNat_lt, toNat_pred_of_lt hj]
        omega
      rw [shiftLoop, if_neg hstop, shiftLeft]
  | succ n ih =>
      have hgo : j < count - 1 := by
        rw [UInt64.lt_iff_toNat_lt, toNat_pred_of_lt hj]
        omega
      have hsucc := toNat_succ_of_lt hj
      have hnext : j.toNat + 1 < slots.length := by omega
      have hj' : j + 1 < count := by
        rw [UInt64.lt_iff_toNat_lt]
        omega
      rw [shiftLoop, if_pos hgo, hsucc, List.getElem?_eq_getElem hnext, Option.bind_eq_bind,
        Option.bind_some, store_of_lt _ (by omega), Option.bind_eq_bind, Option.bind_some,
        ih hj' (by rw [List.length_set]; exact hlen) (by omega), hsucc, shiftLeft,
        List.getD_eq_getElem _ _ hnext]

/-- The search loop finds the first slot that holds the watcher. -/
theorem searchLoop_eq (hlen : a.watcherCount.toNat ≤ a.watchers.length)
    (hi : i.toNat ≤ a.watcherCount.toNat) :
    searchLoop a w i =
      some (match (a.occupied.drop i.toNat).findIdx? (· == w) with
        | none => (a, .notFound)
        | some k => (a.removeAt (i.toNat + k), .ok)) := by
  have hocc : a.occupied.length = a.watcherCount.toNat := by
    rw [occupied, List.length_take, Nat.min_eq_left hlen]
  induction h : a.watcherCount.toNat - i.toNat generalizing i with
  | zero =>
      have hend : ¬ i < a.watcherCount := by
        rw [UInt64.lt_iff_toNat_lt]
        omega
      rw [searchLoop, if_neg hend, List.drop_eq_nil_of_le (by omega), List.findIdx?_nil]
  | succ n ih =>
      have hgo : i < a.watcherCount := by
        rw [UInt64.lt_iff_toNat_lt]
        omega
      have hslot : i.toNat < a.watchers.length := by omega
      have hsucc := toNat_succ_of_lt hgo
      have hslot' : i.toNat < a.occupied.length := by omega
      have hget : a.occupied[i.toNat] = a.watchers[i.toNat] := List.getElem_take
      rw [searchLoop, if_pos hgo, List.getElem?_eq_getElem hslot, Option.bind_eq_bind,
        Option.bind_some, List.drop_eq_getElem_cons hslot', hget, List.findIdx?_cons]
      by_cases hw : a.watchers[i.toNat] = w
      · rw [if_pos hw, shiftLoop_eq hgo hlen, Option.bind_eq_bind, Option.bind_some, if_pos
          (beq_iff_eq.2 hw)]
        rfl
      · rw [if_neg hw, if_neg (by simpa using hw), ih (by omega) (by omega), hsucc]
        cases (a.occupied.drop (i.toNat + 1)).findIdx? (· == w) with
        | none => rfl
        | some k =>
            have hk : i.toNat + 1 + k = i.toNat + (k + 1) := by omega
            simp only [Option.map_some, hk]

end Loops

/-! ### The list that the array holds -/

/-- The record holds the list of the loop `l`. -/
structure Holds (a : WatcherArray) (l : PdLoop) : Prop where
  count : a.watcherCount.toNat = l.watcherCount
  capacity : a.watcherCapacity.toNat = a.watchers.length
  length : a.watchers.length = l.watchers.length
  occupied : a.occupied = l.occupied
  fits : a.watchers.length * 8 < 2 ^ 63

section Holding

variable {a : WatcherArray} {l : PdLoop} {w : Addr}

theorem holds_create (junk : ℕ → Addr) : Holds (create junk) PdLoop.create where
  count := rfl
  capacity := by simp [create]
  length := by simp [create, PdLoop.create]
  occupied := by simp [create, occupied, PdLoop.create, PdLoop.occupied]
  fits := by simp [create]

theorem Holds.count_le (h : Holds a l) : a.watcherCount.toNat ≤ a.watchers.length := by
  rw [h.count, h.length]
  exact l.count_le

/-- In an array with room the new watcher goes behind the occupied slots. -/
theorem Holds.put (h : Holds a l) (hroom : l.watcherCount < l.watchers.length) :
    ∃ a', a.put w = some (a', .ok) ∧ Holds a' (l.push l.watchers w hroom) := by
  have hlt : a.watcherCount.toNat < a.watchers.length := by
    rw [h.count, h.length]
    exact hroom
  have hcount : (a.watcherCount + 1).toNat = a.watcherCount.toNat + 1 := by
    have hfits := h.fits
    rw [UInt64.toNat_add, show (1 : UInt64).toNat = 1 from rfl, Nat.mod_eq_of_lt]
    omega
  refine ⟨_, by rw [WatcherArray.put, store_of_lt _ hlt]; rfl, ?_⟩
  constructor
  · rw [hcount, h.count]
    rfl
  · rw [List.length_set]
    exact h.capacity
  · simp only [PdLoop.push, List.length_set]
    exact h.length
  · rw [l.occupied_push l.watchers w hroom rfl, ← h.occupied, WatcherArray.occupied]
    simp only
    rw [hcount, List.take_set, List.take_add_one, List.getElem?_eq_getElem hlt, Option.toList_some,
      List.set_append_right _ _ (by rw [List.length_take]; omega), List.length_take,
      Nat.min_eq_left (Nat.le_of_lt hlt), Nat.sub_self, List.set_cons_zero]
    rfl
  · rw [List.length_set]
    exact h.fits

/-- A full array is replaced by one of twice the size, if the allocator grants it and it
is not too large for an object. -/
theorem Holds.realloc (h : Holds a l) (answer : Option (ℕ → Addr)) :
    PollDancer.realloc a.watchers (a.watcherCapacity * 2 * pointerSize) answer = none ∨
      ∃ slots, PollDancer.realloc a.watchers (a.watcherCapacity * 2 * pointerSize) answer =
          some slots ∧
        Holds { a with watchers := slots, watcherCapacity := a.watcherCapacity * 2 } l.extend := by
  have hfits := h.fits
  have hcap := h.capacity
  have htwice : (a.watcherCapacity * 2).toNat = a.watchers.length * 2 := by
    rw [UInt64.toNat_mul, hcap, show (2 : UInt64).toNat = 2 from rfl, Nat.mod_eq_of_lt]
    omega
  have hbytes : (a.watcherCapacity * 2 * pointerSize).toNat = a.watchers.length * 2 * 8 := by
    rw [UInt64.toNat_mul, htwice, show pointerSize.toNat = 8 from rfl, Nat.mod_eq_of_lt]
    omega
  cases answer with
  | none => exact .inl rfl
  | some junk =>
      simp only [PollDancer.realloc, UInt64.toNat_div, hbytes]
      rcases Nat.lt_or_ge (a.watchers.length * 2 * 8) (2 ^ 63) with hsmall | hbig
      · have hn : a.watchers.length * 2 * 8 / pointerSize.toNat = a.watchers.length * 2 := by
          rw [show pointerSize.toNat = 8 from rfl]
          omega
        rw [if_neg (Nat.not_le.2 hsmall), hn]
        refine .inr ⟨_, rfl, ?_⟩
        constructor
        · exact h.count
        · simp only [htwice, List.length_append, List.length_take, List.length_map,
            List.length_range]
          omega
        · simp only [PdLoop.extend, PdLoop.grown, PdLoop.watcherCapacity, List.length_append,
            List.length_take, List.length_map, List.length_range, List.length_replicate, ← h.length]
          omega
        · rw [l.occupied_extend, ← h.occupied]
          simp only [WatcherArray.occupied]
          rw [List.take_of_length_le (show a.watchers.length ≤ a.watchers.length * 2 by omega),
            List.take_append_of_le_length h.count_le]
        · simp only [List.length_append, List.length_take, List.length_map, List.length_range]
          omega
      · exact .inl (if_pos hbig)

theorem Holds.removeAt {i : ℕ} (h : Holds a l) (hi : i < l.watcherCount) :
    Holds (a.removeAt i) (l.removeAt i) := by
  have hpred : (a.watcherCount - 1).toNat = a.watcherCount.toNat - 1 :=
    toNat_pred_of_lt (UInt64.lt_iff_toNat_lt.2 (show (0 : UInt64).toNat < _ by
      rw [h.count]
      exact Nat.zero_lt_of_lt hi))
  constructor
  · exact hpred.trans (by rw [h.count]; rfl)
  · exact h.capacity.trans (length_shiftLeft ..).symm
  · simp only [WatcherArray.removeAt, PdLoop.removeAt, length_shiftLeft]
    exact h.length
  · rw [PdLoop.occupied_removeAt hi, ← h.occupied]
    simp only [WatcherArray.removeAt, WatcherArray.occupied, hpred]
    exact take_shiftLeft NULL (by rw [h.count]; exact hi) h.count_le
  · simp only [WatcherArray.removeAt, length_shiftLeft]
    exact h.fits

end Holding

/-- A call on the list of a loop, with the answer of the allocator. -/
inductive ListCall
  | add (w : Addr) (answer : Option (ℕ → Addr))
  | remove (w : Addr)

/-- What a call does to the record. -/
def call (a : WatcherArray) : ListCall → Option (WatcherArray × PdError)
  | .add w answer => a.pdLoopAddWatcher w answer
  | .remove w => a.pdLoopRemoveWatcher w

/-- What the call does to a list, given what it has returned: a successful add appends,
a successful remove erases the first occurrence. -/
def ListCall.onList (xs : List Addr) (err : PdError) : ListCall → List Addr
  | .add w _ => if err = .ok then xs ++ [w] else xs
  | .remove w => if err = .ok then xs.erase w else xs

/-- The calls of a sequence, one after the other, on the record and on a list. -/
def runCalls : List ListCall → WatcherArray × List Addr → Option (WatcherArray × List Addr)
  | [], s => some s
  | c :: cs, (a, xs) => do
      let (a', err) ← a.call c
      runCalls cs (a', c.onList xs err)

section Calls

variable {a : WatcherArray} {l : PdLoop} {w : Addr}

/-- A call has a result; it does to the record what it does to the loop's list. -/
theorem Holds.add (h : Holds a l) (answer : Option (ℕ → Addr)) :
    ∃ a' grow, a.pdLoopAddWatcher w answer = some (a', (PollDancer.pdLoopAddWatcher l w grow).2) ∧
      Holds a' (PollDancer.pdLoopAddWatcher l w grow).1 ∧
      ((PollDancer.pdLoopAddWatcher l w grow).2 ≠ .ok → a' = a) := by
  have hfull : a.watcherCount ≥ a.watcherCapacity ↔ l.watcherCount ≥ l.watcherCapacity := by
    rw [ge_iff_le, UInt64.le_iff_toNat_le, h.capacity, h.count, h.length]
    rfl
  rw [WatcherArray.pdLoopAddWatcher]
  by_cases hw : w = NULL
  · rw [if_pos hw]
    refine ⟨a, false, ?_⟩
    rw [PollDancer.pdLoopAddWatcher, if_pos hw]
    exact ⟨rfl, h, fun _ => rfl⟩
  · rw [if_neg hw]
    by_cases hf : l.watcherCount ≥ l.watcherCapacity
    · rw [if_pos (hfull.2 hf)]
      obtain hno | ⟨slots, hyes, hext⟩ := h.realloc answer
      · refine ⟨a, false, ?_⟩
        simp only [hno, PollDancer.pdLoopAddWatcher, if_neg hw, dif_pos hf, Bool.false_eq_true,
          if_false]
        exact ⟨trivial, h, fun _ => trivial⟩
      · obtain ⟨a', hput, ha'⟩ := hext.put (w := w) l.count_lt_length_grown
        refine ⟨a', true, ?_⟩
        simp only [hyes, hput, PollDancer.pdLoopAddWatcher, if_neg hw, dif_pos hf, if_true]
        exact ⟨trivial, ha', fun hne => absurd rfl hne⟩
    · rw [if_neg fun hge => hf (hfull.1 hge)]
      obtain ⟨a', hput, ha'⟩ := h.put (w := w) (Nat.lt_of_not_le hf)
      refine ⟨a', false, ?_⟩
      rw [PollDancer.pdLoopAddWatcher, if_neg hw, dif_neg hf]
      exact ⟨hput, ha', fun hne => absurd rfl hne⟩

theorem Holds.remove (h : Holds a l) :
    ∃ a', a.pdLoopRemoveWatcher w = some (a', (PollDancer.pdLoopRemoveWatcher l w).2) ∧
      Holds a' (PollDancer.pdLoopRemoveWatcher l w).1 ∧
      ((PollDancer.pdLoopRemoveWatcher l w).2 ≠ .ok → a' = a) := by
  rw [WatcherArray.pdLoopRemoveWatcher, PollDancer.pdLoopRemoveWatcher]
  by_cases hw : w = NULL
  · rw [if_pos hw, if_pos hw]
    exact ⟨a, rfl, h, fun _ => rfl⟩
  · rw [if_neg hw, if_neg hw, searchLoop_eq h.count_le (Nat.zero_le _),
      show (0 : UInt64).toNat = 0 from rfl, List.drop_zero, h.occupied]
    cases hfind : l.occupied.findIdx? (· == w) with
    | none => exact ⟨a, rfl, h, fun _ => rfl⟩
    | some i =>
        obtain ⟨hlt, -⟩ := List.findIdx?_eq_some_iff_getElem.1 hfind
        refine ⟨_, rfl, ?_, fun hne => absurd rfl hne⟩
        rw [Nat.zero_add]
        exact h.removeAt (by rwa [l.length_occupied] at hlt)

/-- What a call does, whatever the allocator answers. -/
theorem Holds.call (h : Holds a l) (c : ListCall) :
    ∃ a' err l', a.call c = some (a', err) ∧ Holds a' l' ∧
      l'.occupied = c.onList l.occupied err ∧ (err ≠ .ok → a' = a) ∧
      ∀ w, c = .remove w → (err = .notFound ↔ w ≠ NULL ∧ w ∉ l.occupied) := by
  cases c with
  | add w answer =>
      obtain ⟨a', grow, hcall, ha', hfail⟩ := h.add (w := w) answer
      refine ⟨a', _, _, hcall, ha', ?_, hfail, fun _ hc => nomatch hc⟩
      rw [ListCall.onList]
      by_cases hok : (PollDancer.pdLoopAddWatcher l w grow).2 = .ok
      · rw [if_pos hok, PdLoop.occupied_add hok]
      · rw [if_neg hok, PdLoop.add_of_ne_ok hok]
  | remove w =>
      obtain ⟨a', hcall, ha', hfail⟩ := h.remove (w := w)
      refine ⟨a', _, _, hcall, ha', ?_, hfail, ?_⟩
      · rw [ListCall.onList]
        by_cases hok : (PollDancer.pdLoopRemoveWatcher l w).2 = .ok
        · rw [if_pos hok, PdLoop.occupied_remove (PdLoop.ne_null_of_remove hok)]
        · rw [if_neg hok, PdLoop.remove_of_ne_ok hok]
      · rintro w' ⟨⟩
        exact PdLoop.remove_eq_notFound_iff

/-- Every sequence of calls has a result, and the record holds the list that the
successful calls describe. -/
theorem Holds.runCalls (h : Holds a l) (cs : List ListCall) :
    ∃ a' l', runCalls cs (a, l.occupied) = some (a', l'.occupied) ∧ Holds a' l' := by
  induction cs generalizing a l with
  | nil => exact ⟨a, l, rfl, h⟩
  | cons c cs ih =>
      obtain ⟨a', err, l', hcall, ha', hocc, -⟩ := h.call c
      obtain ⟨a'', l'', hrun, ha''⟩ := ih ha'
      refine ⟨a'', l'', ?_, ha''⟩
      rw [hocc] at hrun
      rw [WatcherArray.runCalls, hcall]
      exact hrun

end Calls

end WatcherArray
end PollDancer
