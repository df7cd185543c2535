/-
# A loop that several threads use

The functions of `src/loop.c` that take the loop's mutex, access by access: `pd_loop_ref`,
`pd_loop_unref` up to its decision, the check of `pd_loop_run_once`, the store of
`pd_loop_stop` and of `pd_loop_async_send`, `pd_loop_get_async_data`,
`pd_loop_add_watcher` and `pd_loop_remove_watcher`.  Any number of threads call them at
any time; an access to the array that is out of its bounds, or made while `realloc` has
taken the old block and the pointer to the new one is not yet stored, has no result.

If the loop takes its mutex, every run is linearizable: no access is out of bounds,
whenever nobody is past the mutex the loop is what the calls made so far leave behind one
after the other, and so no reference, no data and no watcher is lost or counted twice
(`loop_calls_linearizable_iff`).  If it does not, two calls of `pd_loop_ref` are enough
to lose a reference.
-/
import PollDancer.Library.Mutex
import PollDancer.LoopCreate
import PollDancer.WatcherArray

namespace PollDancer
namespace SharedLoop

open Library

/-- The fields of `struct pd_loop` that the mutex is for.  `watchers` has no block while
`realloc` has taken the old one and the new one is not yet stored.  `ref_count` is an `int`;
more than 2^31 - 1 references, which would overflow it, are left out. -/
structure LoopFields where
  refCount : ℤ
  stopRequested : Bool
  asyncData : Addr
  watchers : Option (List Addr)
  watcherCount : UInt64
  watcherCapacity : UInt64

namespace LoopFields

/-- A loop of `pd_loop_create`. -/
def create (junk : ℕ → Addr) : LoopFields where
  refCount := 1
  stopRequested := false
  asyncData := NULL
  watchers := some (WatcherArray.create junk).watchers
  watcherCount := (WatcherArray.create junk).watcherCount
  watcherCapacity := (WatcherArray.create junk).watcherCapacity

/-- `loop->watchers[i]`. -/
def slot (s : LoopFields) (i : UInt64) : Option Addr := s.watchers.bind (·[i.toNat]?)

/-- `loop->watchers[i] = w`. -/
def setSlot (s : LoopFields) (i : UInt64) (w : Addr) : Option LoopFields :=
  (s.watchers.bind (store · i.toNat w)).map fun slots => { s with watchers := some slots }

/-- `realloc(loop->watchers, bytes)`: unless it refuses, the old block is gone. -/
def realloc (s : LoopFields) (bytes : UInt64) (answer : Option (ℕ → Addr)) : Option LoopFields :=
  s.watchers.map fun slots =>
    match PollDancer.realloc slots bytes answer with
    | none => s
    | some _ => { s with watchers := none }

/-- The block that `realloc` returns. -/
def reallocResult (s : LoopFields) (bytes : UInt64) (answer : Option (ℕ → Addr)) :
    Option (List Addr) :=
  s.watchers.bind fun slots => PollDancer.realloc slots bytes answer

/-- The array of the watchers is replaced. -/
def withArray (s : LoopFields) (a : WatcherArray) : LoopFields :=
  { s with
    watchers := some a.watchers
    watcherCount := a.watcherCount
    watcherCapacity := a.watcherCapacity }

end LoopFields

/-- The calls. -/
inductive LoopCall
  | ref
  | unref
  /-- `pd_loop_run_once`, up to its wait. -/
  | runOnce
  /-- `pd_loop_stop`, up to the wake-up. -/
  | stop
  /-- `pd_loop_async_send`, up to the wake-up. -/
  | asyncSend (data : Addr)
  | getAsyncData
  | addWatcher (w : Addr) (answer : Option (ℕ → Addr))
  | removeWatcher (w : Addr)

/-- What a call has found out when it gives the mutex back. -/
inductive Outcome
  | done
  /-- `should_destroy` of `pd_loop_unref`, `should_stop` of `pd_loop_run_once`. -/
  | flag (b : Bool)
  | data (a : Addr)
  | error (e : PdError)
  deriving DecidableEq, Repr

open Code

/-- `loop->ref_count++`. -/
def pdLoopRef : Code LoopFields Outcome :=
  read fun s => write (fun t => { t with refCount := s.refCount + 1 }) (ret .done)

/-- `loop->ref_count--; should_destroy = (loop->ref_count == 0);` -/
def pdLoopUnref : Code LoopFields Outcome :=
  read fun s => write (fun t => { t with refCount := s.refCount - 1 })
    (read fun t => ret (.flag (t.refCount == 0)))

/-- `int should_stop = loop->stop_requested;` -/
def pdLoopRunOnce : Code LoopFields Outcome := read fun s => ret (.flag s.stopRequested)

/-- `loop->stop_requested = 1;` -/
def pdLoopStop : Code LoopFields Outcome :=
  write (fun s => { s with stopRequested := true }) (ret .done)

/-- `loop->async_data = data;` -/
def pdLoopAsyncSend (data : Addr) : Code LoopFields Outcome :=
  write (fun s => { s with asyncData := data }) (ret .done)

/-- `void *data = loop->async_data;` -/
def pdLoopGetAsyncData : Code LoopFields Outcome := read fun s => ret (.data s.asyncData)

/-- `loop->watchers[loop->watcher_count++] = watcher;` -/
def put (w : Addr) : Code LoopFields Outcome :=
  read fun s => write (fun t => { t with watcherCount := s.watcherCount + 1 })
    (access (fun t => t.setSlot s.watcherCount w) fun _ => ret (.error .ok))

/-- `pd_loop_add_watcher`, with the answer of the allocator. -/
def pdLoopAddWatcher (w : Addr) (answer : Option (ℕ → Addr)) : Code LoopFields Outcome :=
  if w = NULL then ret (.error .invalidArg)
  else
    read fun s => read fun t =>
      if s.watcherCount ≥ t.watcherCapacity then
        read fun u =>
          let newCapacity := u.watcherCapacity * 2
          let bytes := newCapacity * pointerSize
          access (fun v => v.realloc bytes answer) fun v =>
            match v.reallocResult bytes answer with
            | none => ret (.error .noMemory)
            | some newWatchers =>
                write (fun x => { x with watchers := some newWatchers })
                  (write (fun x => { x with watcherCapacity := newCapacity }) (put w))
      else put w

/-- A loop counter that is below a bound can still grow. -/
theorem sub_succ_toNat_lt {i n : UInt64} (h : i < n) :
    2 ^ 64 - (i + 1).toNat < 2 ^ 64 - i.toNat := by
  have hi := i.toNat_lt
  rw [toNat_succ_of_lt h]
  omega

/-- `for (; j < loop->watcher_count - 1; j++) watchers[j] = watchers[j + 1];` and
`loop->watcher_count--`. -/
def shiftLoop (j : UInt64) : Code LoopFields Outcome :=
  read fun s =>
    if j < s.watcherCount - 1 then
      access (fun t => (t.slot (j + 1)).map fun _ => t) fun t =>
        access (fun u => u.setSlot j ((t.slot (j + 1)).getD NULL)) fun _ => shiftLoop (j + 1)
    else
      read fun t => write (fun u => { u with watcherCount := t.watcherCount - 1 })
        (ret (.error .ok))
termination_by 2 ^ 64 - j.toNat
decreasing_by exact sub_succ_toNat_lt ‹_›

/-- The search loop of `pd_loop_remove_watcher` from slot `i` on. -/
def searchLoop (w : Addr) (i : UInt64) : Code LoopFields Outcome :=
  read fun s =>
    if i < s.watcherCount then
      access (fun t => (t.slot i).map fun _ => t) fun t =>
        if t.slot i = some w then shiftLoop i else searchLoop w (i + 1)
    else ret (.error .notFound)
termination_by 2 ^ 64 - i.toNat
decreasing_by exact sub_succ_toNat_lt ‹_›

/-- `pd_loop_remove_watcher`. -/
def pdLoopRemoveWatcher (w : Addr) : Code LoopFields Outcome :=
  if w = NULL then ret (.error .invalidArg) else searchLoop w 0

/-- What a call does under the mutex. -/
def body : LoopCall → Code LoopFields Outcome
  | .ref => pdLoopRef
  | .unref => pdLoopUnref
  | .runOnce => pdLoopRunOnce
  | .stop => pdLoopStop
  | .asyncSend data => pdLoopAsyncSend data
  | .getAsyncData => pdLoopGetAsyncData
  | .addWatcher w answer => pdLoopAddWatcher w answer
  | .removeWatcher w => pdLoopRemoveWatcher w

/-! ### The array functions, made in one piece -/

section Array

variable {s : LoopFields} {a : WatcherArray} {w : Addr}

@[simp]
theorem withArray_watcherCount : (s.withArray a).watcherCount = a.watcherCount := rfl

@[simp]
theorem withArray_watcherCapacity : (s.withArray a).watcherCapacity = a.watcherCapacity := rfl

@[simp]
theorem slot_withArray (i : UInt64) : (s.withArray a).slot i = a.watchers[i.toNat]? := rfl

theorem run_put : (put w).run (s.withArray a) =
    (a.put w).map fun r => (s.withArray r.1, .error r.2) := by
  simp only [put, run_read, run_write, run_access, run_ret, LoopFields.setSlot,
    LoopFields.withArray, Option.bind_some, WatcherArray.put, Option.bind_eq_bind]
  cases store a.watchers a.watcherCount.toNat w with
  | none => rfl
  | some slots => rfl

theorem run_addWatcher {answer : Option (ℕ → Addr)} :
    (pdLoopAddWatcher w answer).run (s.withArray a) =
      (a.pdLoopAddWatcher w answer).map fun r => (s.withArray r.1, .error r.2) := by
  rw [pdLoopAddWatcher, WatcherArray.pdLoopAddWatcher]
  by_cases hw : w = NULL
  · rw [if_pos hw, if_pos hw]
    rfl
  · rw [if_neg hw, if_neg hw, run_read, run_read, withArray_watcherCount,
      withArray_watcherCapacity]
    by_cases hfull : a.watcherCount ≥ a.watcherCapacity
    · rw [if_pos hfull, if_pos hfull]
      simp only [run_read, run_access, LoopFields.realloc, LoopFields.reallocResult,
        withArray_watcherCapacity]
      cases hr : PollDancer.realloc a.watchers (a.watcherCapacity * 2 * pointerSize) answer with
      | none =>
          simp only [LoopFields.withArray, Option.map_some, Option.bind_some, hr]
          rfl
      | some slots =>
          simp only [LoopFields.withArray, Option.map_some, Option.bind_some, hr, run_write]
          exact run_put (s := s) (a := ⟨slots, a.watcherCount, a.watcherCapacity * 2⟩)
    · rw [if_neg hfull, if_neg hfull]
      exact run_put

/-- The shift loop, with the count that ends it. -/
theorem run_shiftLoop {j : UInt64} (hj : j < a.watcherCount)
    (hlen : a.watcherCount.toNat ≤ a.watchers.length) :
    (shiftLoop j).run (s.withArray a) =
      (WatcherArray.shiftLoop a.watchers a.watcherCount j).map fun slots =>
        (s.withArray { a with watchers := slots, watcherCount := a.watcherCount - 1 },
          .error .ok) := by
  induction h : a.watcherCount.toNat - 1 - j.toNat generalizing a j with
  | zero =>
      have hstop : ¬ j < a.watcherCount - 1 := by
        rw [UInt64.lt_iff_toNat_lt, toNat_pred_of_lt hj]
        omega
      rw [shiftLoop, WatcherArray.shiftLoop, if_neg hstop, run_read, withArray_watcherCount,
        if_neg hstop]
      rfl
  | succ n ih =>
      have hgo : j < a.watcherCount - 1 := by
        rw [UInt64.lt_iff_toNat_lt, toNat_pred_of_lt hj]
        omega
      have hsucc := toNat_succ_of_lt hj
      have hnext : (j + 1).toNat < a.watchers.length := by omega
      have hj' : j + 1 < a.watcherCount := by
        rw [UInt64.lt_iff_toNat_lt]
        omega
      have hget := List.getElem?_eq_getElem hnext
      have hslot : (s.withArray a).slot (j + 1) = some a.watchers[(j + 1).toNat] := by
        rw [slot_withArray, hget]
      have hset : (s.withArray a).setSlot j a.watchers[(j + 1).toNat] =
          some (s.withArray { a with
            watchers := a.watchers.set j.toNat a.watchers[(j + 1).toNat] }) := by
        simp only [LoopFields.setSlot, LoopFields.withArray, Option.bind_some]
        rw [store_of_lt _ (by omega)]
        rfl
      rw [shiftLoop, WatcherArray.shiftLoop, if_pos hgo, run_read, withArray_watcherCount,
        if_pos hgo, run_access, hslot, Option.map_some, Option.bind_some, run_access,
        Option.getD_some, hset, Option.bind_some, hget, Option.bind_eq_bind, Option.bind_some,
        store_of_lt _ (by omega), Option.bind_eq_bind, Option.bind_some]
      exact ih hj' (by rw [List.length_set]; exact hlen) (by simp only; omega)

/-- The search loop. -/
theorem run_searchLoop {i : UInt64} (hi : i.toNat ≤ a.watcherCount.toNat)
    (hlen : a.watcherCount.toNat ≤ a.watchers.length) :
    (searchLoop w i).run (s.withArray a) =
      (a.searchLoop w i).map fun r => (s.withArray r.1, .error r.2) := by
  induction h : a.watcherCount.toNat - i.toNat generalizing i with
  | zero =>
      have hend : ¬ i < a.watcherCount := by
        rw [UInt64.lt_iff_toNat_lt]
        omega
      rw [searchLoop, WatcherArray.searchLoop, if_neg hend, run_read, withArray_watcherCount,
        if_neg hend]
      rfl
  | succ n ih =>
      have hgo : i < a.watcherCount := by
        rw [UInt64.lt_iff_toNat_lt]
        omega
      have hsucc := toNat_succ_of_lt hgo
      have hget := List.getElem?_eq_getElem (show i.toNat < a.watchers.length by omega)
      rw [searchLoop, WatcherArray.searchLoop, if_pos hgo, run_read, withArray_watcherCount,
        if_pos hgo, run_access, slot_withArray, hget, Option.map_some, Option.bind_some,
        Option.bind_eq_bind, Option.bind_some]
      by_cases hw : a.watchers[i.toNat] = w
      · rw [if_pos (congrArg some hw), if_pos hw, run_shiftLoop hgo hlen, Option.bind_eq_bind]
        cases WatcherArray.shiftLoop a.watchers a.watcherCount i with
        | none => rfl
        | some slots => rfl
      · rw [if_neg fun heq => hw (Option.some.inj heq), if_neg hw]
        exact ih (by omega) (by omega)

theorem run_removeWatcher (hlen : a.watcherCount.toNat ≤ a.watchers.length) :
    (pdLoopRemoveWatcher w).run (s.withArray a) =
      (a.pdLoopRemoveWatcher w).map fun r => (s.withArray r.1, .error r.2) := by
  rw [pdLoopRemoveWatcher, WatcherArray.pdLoopRemoveWatcher]
  split_ifs with hw
  · rfl
  · exact run_searchLoop (Nat.zero_le _) hlen

end Array

/-! ### What the calls come to -/

/-- The calls that have given the mutex back, with their threads and outcomes. -/
abbrev Record := List (ℕ × LoopCall × Outcome)

/-- The calls of `pd_loop_ref` less those of `pd_loop_unref`. -/
def netRefs : Record → ℤ
  | [] => 0
  | (_, .ref, _) :: log => netRefs log + 1
  | (_, .unref, _) :: log => netRefs log - 1
  | _ :: log => netRefs log

/-- Has a `pd_loop_stop` been made? -/
def stopped : Record → Bool
  | [] => false
  | (_, .stop, _) :: _ => true
  | _ :: log => stopped log

/-- The data of the last `pd_loop_async_send`, after `data`. -/
def lastSent (data : Addr) : Record → Addr
  | [] => data
  | (_, .asyncSend data', _) :: log => lastSent data' log
  | _ :: log => lastSent data log

/-- The list after a call: a successful add appends, a successful remove erases the first
occurrence. -/
def listAfter (xs : List Addr) : ℕ × LoopCall × Outcome → List Addr
  | (_, .addWatcher w answer, .error e) => (WatcherArray.ListCall.add w answer).onList xs e
  | (_, .removeWatcher w, .error e) => (WatcherArray.ListCall.remove w).onList xs e
  | _ => xs

/-- The fields of the loop are what the calls of the record add up to. -/
structure Accounts (log : Record) (s : LoopFields) : Prop where
  refCount : s.refCount = 1 + netRefs log
  stopRequested : s.stopRequested = stopped log
  asyncData : s.asyncData = lastSent NULL log
  watchers : ∃ a l, s = s.withArray a ∧ WatcherArray.Holds a l ∧
    l.occupied = log.foldl listAfter []

section Sequential

variable {log : Record} {s : LoopFields} {i : ℕ} {op : LoopCall}

theorem netRefs_append (log log' : Record) :
    netRefs (log ++ log') = netRefs log + netRefs log' := by
  induction log with
  | nil => exact (Int.zero_add _).symm
  | cons e log ih =>
      obtain ⟨i, op, a⟩ := e
      cases op <;> simp only [List.cons_append, netRefs, ih] <;> omega

theorem stopped_append (log log' : Record) :
    stopped (log ++ log') = (stopped log || stopped log') := by
  induction log with
  | nil => rfl
  | cons e log ih =>
      obtain ⟨i, op, a⟩ := e
      cases op <;> simp only [List.cons_append, stopped, ih, Bool.true_or]

theorem lastSent_append (data : Addr) (log log' : Record) :
    lastSent data (log ++ log') = lastSent (lastSent data log) log' := by
  induction log generalizing data with
  | nil => rfl
  | cons e log ih =>
      obtain ⟨i, op, a⟩ := e
      cases op <;> simp only [List.cons_append, lastSent, ih]

theorem accounts_create (junk : ℕ → Addr) : Accounts [] (.create junk) where
  refCount := rfl
  stopRequested := rfl
  asyncData := rfl
  watchers := ⟨_, _, rfl, WatcherArray.holds_create junk, rfl⟩

/-- A call that is not about the array. -/
theorem Accounts.call {s' : LoopFields} {a : Outcome} (h : Accounts log s)
    (hrefs : s'.refCount = s.refCount + netRefs [(i, op, a)])
    (hstop : s'.stopRequested = (s.stopRequested || stopped [(i, op, a)]))
    (hdata : s'.asyncData = lastSent s.asyncData [(i, op, a)])
    (harray : ∀ x, s = s.withArray x → s' = s'.withArray x)
    (hlist : ∀ xs, listAfter xs (i, op, a) = xs) : Accounts (log ++ [(i, op, a)]) s' where
  refCount := by
    rw [hrefs, h.refCount, netRefs_append]
    omega
  stopRequested := by rw [hstop, h.stopRequested, stopped_append]
  asyncData := by rw [hdata, h.asyncData, lastSent_append]
  watchers := by
    obtain ⟨x, l, hx, hholds, hocc⟩ := h.watchers
    refine ⟨x, l, harray x hx, hholds, ?_⟩
    rw [List.foldl_append, ← hocc]
    exact (hlist _).symm

/-- A call on the array. -/
theorem Accounts.listCall {l l' : PdLoop} {c : WatcherArray.ListCall} {e : PdError}
    {x' : WatcherArray} (h : Accounts log s) (hocc : l.occupied = log.foldl listAfter [])
    (hx' : WatcherArray.Holds x' l') (hocc' : l'.occupied = c.onList l.occupied e)
    (hrefs : netRefs [(i, op, .error e)] = 0) (hstop : stopped [(i, op, .error e)] = false)
    (hdata : ∀ d, lastSent d [(i, op, .error e)] = d)
    (hlist : ∀ xs, listAfter xs (i, op, .error e) = c.onList xs e) :
    Accounts (log ++ [(i, op, .error e)]) (s.withArray x') where
  refCount := by
    rw [netRefs_append, hrefs, Int.add_zero]
    exact h.refCount
  stopRequested := by
    rw [stopped_append, hstop, Bool.or_false]
    exact h.stopRequested
  asyncData := by
    rw [lastSent_append, hdata]
    exact h.asyncData
  watchers := by
    refine ⟨x', l', rfl, hx', ?_⟩
    rw [List.foldl_append, ← hocc, hocc']
    exact (hlist _).symm

/-- **A call by itself**: it has a result, and the fields are accounted for again. -/
theorem Accounts.run (h : Accounts log s) (i : ℕ) (op : LoopCall) :
    ∃ s' a, (body op).run s = some (s', a) ∧ Accounts (log ++ [(i, op, a)]) s' := by
  obtain ⟨x, l, hx, hholds, hocc⟩ := h.watchers
  cases op with
  | ref =>
      exact ⟨_, _, rfl, h.call rfl (Bool.or_false _).symm rfl (fun y hy => by rw [hy]; rfl)
        fun _ => rfl⟩
  | unref =>
      exact ⟨_, _, rfl, h.call rfl (Bool.or_false _).symm rfl (fun y hy => by rw [hy]; rfl)
        fun _ => rfl⟩
  | runOnce =>
      exact ⟨_, _, rfl, h.call (Int.add_zero _).symm (Bool.or_false _).symm rfl (fun _ hy => hy)
        fun _ => rfl⟩
  | stop =>
      exact ⟨_, _, rfl, h.call (Int.add_zero _).symm (Bool.or_true _).symm rfl
        (fun y hy => by rw [hy]; rfl) fun _ => rfl⟩
  | asyncSend data =>
      exact ⟨_, _, rfl, h.call (Int.add_zero _).symm (Bool.or_false _).symm rfl
        (fun y hy => by rw [hy]; rfl) fun _ => rfl⟩
  | getAsyncData =>
      exact ⟨_, _, rfl, h.call (Int.add_zero _).symm (Bool.or_false _).symm rfl (fun _ hy => hy)
        fun _ => rfl⟩
  | addWatcher w answer =>
      obtain ⟨x', e, l', hcall, hx', hocc', -⟩ := hholds.call (.add w answer)
      refine ⟨s.withArray x', .error e, ?_, h.listCall hocc hx' hocc' rfl rfl (fun _ => rfl)
        fun _ => rfl⟩
      have hcall : x.pdLoopAddWatcher w answer = some (x', e) := hcall
      rw [body, hx, run_addWatcher, hcall]
      rfl
  | removeWatcher w =>
      obtain ⟨x', e, l', hcall, hx', hocc', -⟩ := hholds.call (.remove w)
      refine ⟨s.withArray x', .error e, ?_, h.listCall hocc hx' hocc' rfl rfl (fun _ => rfl)
        fun _ => rfl⟩
      have hcall : x.pdLoopRemoveWatcher w = some (x', e) := hcall
      rw [body, hx, run_removeWatcher hholds.count_le, hcall]
      rfl

/-- The fields after the calls of a record. -/
theorem Accounts.of_sequential {junk : ℕ → Addr}
    (h : Threads.Sequential body (.create junk) log s) : Accounts log s :=
  h.invariant (I := Accounts) (accounts_create junk) fun log t i op a t' ht hrun => by
    obtain ⟨t'', a', hrun', ht'⟩ := ht.run i op
    obtain ⟨rfl, rfl⟩ := Prod.mk.inj (Option.some.inj (hrun.symm.trans hrun'))
    exact ht'

end Sequential

/-! ### Any number of threads -/

/-- The threads that use a loop of `pd_loop_create`. -/
abbrev Users := Threads ℕ LoopCall LoopFields Outcome

/-- Their runs. -/
def users (pdThreadSafe : Bool) (config : Option PdLoopConfig) (junk : ℕ → Addr) :
    Machine Users (ThreadStep ℕ LoopCall) :=
  Threads.runs (locks pdThreadSafe config) body (.create junk)

/-- Nobody is past the mutex. -/
def Quiet (s : Users) : Prop := ∀ i op rest, s.phase i ≠ .inside op rest

/-- The calls of the threads are as good as made one after the other: nobody is about to make
an access out of bounds; a call that returns returns what the record says; and whenever
nobody is past the mutex, the calls of the record have, one by one, returned what it says
and left the loop as it is, with the references, the stop, the data and the watchers
that they add up to.  The record grows at its end: the calls that have returned come before
those still to be made. -/
structure Linearizable (locks : Bool) (junk : ℕ → Addr) (s : Users) : Prop where
  in_bounds : ¬s.Faulty
  told : ∀ i op a, s.phase i = .leaving op a →
    (s.log.filter fun e => e.1 = i).getLast? = some (i, op, a)
  sequential : Quiet s → Threads.Sequential body (.create junk) s.log s.shared
  accounts : Quiet s → Accounts s.log s.shared
  ordered : ∀ ls s', Machine.run (Threads.step locks body) s ls = some s' → s.log <+: s'.log

/-- Without the mutex: two threads read the count before either writes it. -/
def twoRefs : List (ThreadStep ℕ LoopCall) :=
  [.invoke 0 .ref, .invoke 1 .ref, .enter 0, .enter 1, .access 0, .access 1, .access 0, .access 1,
    .exit 0, .exit 1]

/-- One of the two references is lost. -/
theorem twoRefs_lost (junk : ℕ → Addr) :
    ∃ s, Machine.run (Threads.step false body) (Threads.start ℕ LoopCall Outcome (.create junk))
      twoRefs = some s ∧ Quiet s ∧ s.shared.refCount = 2 ∧
      s.log = [(0, .ref, .done), (1, .ref, .done)] := by
  have hrun : ∃ s, Machine.run (Threads.step false body)
      (Threads.start ℕ LoopCall Outcome (.create junk)) twoRefs = some s ∧
      (s.phase 0 = .leaving .ref .done ∧ s.phase 1 = .leaving .ref .done) ∧
      s.shared.refCount = 2 ∧ s.log = [(0, .ref, .done), (1, .ref, .done)] :=
    ⟨_, rfl, ⟨rfl, rfl⟩, rfl, rfl⟩
  obtain ⟨s, hrun, ⟨h0, h1⟩, hcount⟩ := hrun
  refine ⟨s, hrun, fun i op rest hi => ?_, hcount⟩
  by_cases hne : i = 0 ∨ i = 1
  · rcases hne with rfl | rfl
    · exact absurd (h0.symm.trans hi) (by simp)
    · exact absurd (h1.symm.trans hi) (by simp)
  · push Not at hne
    have hidle := Threads.phase_of_run (j := i) hrun (by simp [twoRefs, ThreadStep.thread, hne])
    exact absurd (hidle.symm.trans hi) (by simp [Threads.start])

/-- **The calls on a loop are linearizable in every run of any number of threads exactly if
the loop takes its mutex.** -/
theorem loop_calls_linearizable_iff (pdThreadSafe : Bool) (config : Option PdLoopConfig)
    (junk : ℕ → Addr) :
    (∀ s, (users pdThreadSafe config junk).Reachable s →
        Linearizable (locks pdThreadSafe config) junk s) ↔
      pdThreadSafe = true ∧ ∃ c, config = some c ∧ c.enableThreadSafety ≠ 0 := by
  rw [← locks_iff, users]
  constructor
  · intro h
    by_contra hoff
    rw [Bool.not_eq_true] at hoff
    rw [hoff] at h
    obtain ⟨s, hrun, hquiet, hcount, hlog⟩ := twoRefs_lost junk
    have hacc := ((h s (Machine.Reach.run (.init rfl) hrun)).accounts hquiet).refCount
    rw [hcount, hlog] at hacc
    exact absurd hacc (by decide)
  · intro hon s h
    rw [hon] at h
    obtain ⟨base, hlin⟩ := Threads.Linearizes.of_reach h
    have hacc := Accounts.of_sequential hlin.sequential
    have hfree : Quiet s → s.shared = base := fun hquiet => hlin.free <|
      Option.eq_none_iff_forall_ne_some.2 fun i hi => by
        obtain ⟨op, rest, hr⟩ := hlin.held i hi
        exact hquiet i op rest hr
    refine ⟨hlin.not_faulty fun op => ?_, hlin.told, fun hq => ?_, fun hq => ?_,
      fun ls s' hrun => Threads.log_prefix hrun⟩
    · obtain ⟨t, a, hrun, -⟩ := hacc.run 0 op
      rw [hrun]
      rfl
    · rw [hfree hq]
      exact hlin.sequential
    · rw [hfree hq]
      exact hacc

end SharedLoop
end PollDancer
