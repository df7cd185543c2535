/-
# Waiting without a watcher

`pd_loop_run` is to return once no watcher is active.  Its exit test counts the watchers
in the list, stopped ones included, and then blocks without a timeout; neither
`pd_watcher_stop` nor `pd_watcher_destroy` writes the eventfd.  So the loop blocks for
good when its last active watcher is stopped and stays in the list, and when the last one
is stopped or destroyed by another thread while the loop is past its test.

The loop thread is the one of `PollDancer.StopWakeup`, with the list and the `active`
flags in place of the bare count, and the calls of `src/watcher.c` cut where they store
`active`, ask the backend and change the list.  In the runs in which the exit test agrees
with the flags and no call takes the last active watcher away behind it (`Attentive`) the
loop never blocks without a watcher (`never_idle`); any other step leads there.
-/
import PollDancer.StopWakeup
import PollDancer.Types
import Mathlib.Data.List.Nodup

namespace PollDancer
namespace IdleWait

open Library
open StopWakeup (Item Pc)

/-- A watcher in `loop->watchers`, with its `active`. -/
structure Member where
  addr : Addr
  active : Bool
  deriving DecidableEq, Repr

/-- Where a thread is in a call on a watcher. -/
inductive CallPc
  | idle
  /-- In `watcher_unregister` of `pd_watcher_stop`, which may be that of a
  `pd_watcher_destroy`. -/
  | stopping (w : Addr) (destroy : Bool)
  /-- In `pd_watcher_cleanup`, before the watcher leaves the list. -/
  | cleaning (w : Addr)
  /-- In `watcher_register` of `pd_watcher_start`. -/
  | starting (w : Addr)
  /-- In `pd_watcher_init`, before `pd_loop_add_watcher`. -/
  | adding (w : Addr)
  deriving DecidableEq, Repr

/-- The loop, its list, and the calls under way: that of the running callback (`none`) and
those of other threads. -/
structure State where
  loop : StopWakeup.State
  watchers : List Member
  calls : Option ℕ → CallPc

/-- The atomic steps. -/
inductive Step
  | loop (l : StopWakeup.Step)
  /-- `pd_loop_run` is called again. -/
  | runAgain
  | stop (c : Option ℕ) (w : Addr)
  | destroy (c : Option ℕ) (w : Addr)
  | start (c : Option ℕ) (w : Addr)
  | create (c : Option ℕ) (w : Addr)
  /-- `watcher_unregister` returns. -/
  | unregistered (c : Option ℕ) (ok : Bool)
  /-- `watcher_register` of `pd_watcher_start` returns. -/
  | registered (c : Option ℕ) (ok : Bool)
  /-- `pd_loop_remove_watcher`. -/
  | remove (c : Option ℕ)
  /-- `pd_loop_add_watcher`. -/
  | add (c : Option ℕ) (ok : Bool)
  deriving DecidableEq

/-- The list is replaced, and its count with it. -/
def State.setWatchers (s : State) (watchers : List Member) : State :=
  { s with watchers, loop := { s.loop with watcherCount := watchers.length } }

/-- A thread moves within its call. -/
def State.setCall (s : State) (c : Option ℕ) (pc : CallPc) : State :=
  { s with calls := Function.update s.calls c pc }

/-- `watcher->active` is stored. -/
def setActive (watchers : List Member) (w : Addr) (active : Bool) : List Member :=
  watchers.map fun m => if m.addr = w then { m with active } else m

/-- `watcher->active` of a watcher in the list. -/
def State.active (s : State) (w : Addr) : Option Bool :=
  (s.watchers.find? fun m => m.addr == w).map (·.active)

/-- Is a callback of a watcher running? -/
def inCallback : Pc → Bool
  | .dispatch (.watcher :: _) => true
  | _ => false

/-- May the thread begin a call?  The loop thread may in a callback. -/
def State.mayCall (s : State) (c : Option ℕ) : Bool :=
  s.calls c == .idle && (c.isSome || inCallback s.loop.pc)

/-- The steps of the loop thread that this module leaves to `StopWakeup`: the count changes
by the calls alone, and a callback returns after its calls. -/
def State.mayMove (s : State) : StopWakeup.Step → Bool
  | .callback (.setCount _) => false
  | .next => s.calls none == .idle
  | _ => true

/-- The state after a step, `none` where the step cannot be taken. -/
def step (s : State) : Step → Option State
  | .loop l =>
      if s.mayMove l then (StopWakeup.step s.loop l).map fun loop => { s with loop } else none
  | .runAgain =>
      if s.loop.pc = .returned then some { s with loop := { s.loop with pc := .start } } else none
  | .stop c w =>
      match s.active w with
      | none => none
      | some active =>
        if s.mayCall c then
          if active then
            some ((s.setWatchers (setActive s.watchers w false)).setCall c (.stopping w false))
          else some s
        else none
  | .destroy c w =>
      match s.active w with
      | none => none
      | some active =>
        if s.mayCall c then
          if active then
            some ((s.setWatchers (setActive s.watchers w false)).setCall c (.stopping w true))
          else some (s.setCall c (.cleaning w))
        else none
  | .start c w =>
      match s.active w with
      | none => none
      | some active =>
        if s.mayCall c then
          if active then some s
          else some ((s.setWatchers (setActive s.watchers w true)).setCall c (.starting w))
        else none
  | .create c w =>
      if s.mayCall c then some (s.setCall c (.adding w)) else none
  | .unregistered c ok =>
      match s.calls c with
      | .stopping w destroy =>
        some ((if ok then s else s.setWatchers (setActive s.watchers w true)).setCall c
          (if destroy then .cleaning w else .idle))
      | _ => none
  | .registered c ok =>
      match s.calls c with
      | .starting w =>
        some ((if ok then s else s.setWatchers (setActive s.watchers w false)).setCall c .idle)
      | _ => none
  | .remove c =>
      match s.calls c with
      | .cleaning w =>
        some ((s.setWatchers (s.watchers.eraseP fun m => m.addr == w)).setCall c .idle)
      | _ => none
  | .add c ok =>
      match s.calls c with
      | .adding w =>
        -- the memory of a watcher in use is not given to `pd_watcher_init`
        if (s.active w).isNone then
          some ((if ok then s.setWatchers (s.watchers ++ [⟨w, true⟩]) else s).setCall c .idle)
        else none
      | _ => none

/-- A loop before `pd_loop_run`, with any watchers. -/
def Init (s : State) : Prop :=
  s.loop.pc = .start ∧ s.loop.watcherCount = s.watchers.length ∧
    (s.watchers.map Member.addr).Nodup ∧ ∀ c, s.calls c = .idle

/-- The runs of the loop thread and of the threads that call. -/
def runs : Machine State Step := Machine.ofFun Init step

/-- Some watcher of the list is active. -/
def State.HasActive (s : State) : Prop := ∃ m ∈ s.watchers, m.active = true

/-- The loop thread is blocked, and nothing is there to wake it. -/
def State.Blocked (s : State) : Prop := s.loop.pc = .wait ∧ s.loop.eventfd = 0

/-- The loop thread is past its exit test, and will block or is blocked. -/
def State.Committed (s : State) : Prop := s.loop.pc = .onceCheck ∨ s.loop.pc = .wait

/-- The loop thread will not block: it finds the stop at the second look at the flag, or the
eventfd readable. -/
def State.Woken (s : State) : Prop :=
  0 < s.loop.eventfd ∨ (s.loop.pc = .onceCheck ∧ s.loop.stopRequested = true)

/-- The watcher that a step takes away: it is stopped, could not be started, or leaves the
list. -/
def Step.ends (s : State) : Step → Option Addr
  | .stop _ w => some w
  | .destroy _ w => some w
  | .registered c false =>
      match s.calls c with
      | .starting w => some w
      | _ => none
  | .remove c =>
      match s.calls c with
      | .cleaning w => some w
      | _ => none
  | _ => none

/-- The exit test finds no watcher, or one that is active, or a stop; and no call takes the
last active watcher away from a loop that is past the test, unless it will be woken. -/
def Attentive (s : State) : Step → Prop
  | .loop .check => s.loop.stopRequested = true ∨ s.watchers = [] ∨ s.HasActive
  | l => ∀ w, l.ends s = some w → s.Committed →
      s.Woken ∨ ∃ m ∈ s.watchers, m.addr ≠ w ∧ m.active = true

instance (s : State) : Decidable s.HasActive :=
  inferInstanceAs (Decidable (∃ m ∈ s.watchers, m.active = true))

instance (s : State) : Decidable s.Committed :=
  inferInstanceAs (Decidable (_ ∨ _))

instance (s : State) : Decidable s.Woken :=
  inferInstanceAs (Decidable (_ ∨ _))

/-- The second clause of `Attentive`, over the watcher that the step takes away. -/
instance (s : State) (l : Step) : Decidable (∀ w, l.ends s = some w → s.Committed →
    s.Woken ∨ ∃ m ∈ s.watchers, m.addr ≠ w ∧ m.active = true) :=
  inferInstanceAs (Decidable (∀ w ∈ l.ends s, s.Committed →
    s.Woken ∨ ∃ m ∈ s.watchers, m.addr ≠ w ∧ m.active = true))

instance (s : State) (l : Step) : Decidable (Attentive s l) := by
  unfold Attentive
  split <;> infer_instance

/-- What a call does to the list: `some w` is the watcher it takes away. -/
inductive Edit (watchers : List Member) : Option Addr → List Member → Prop
  | same : Edit watchers none watchers
  | raise (w : Addr) : Edit watchers none (setActive watchers w true)
  | append {w : Addr} (hnew : w ∉ watchers.map Member.addr) :
      Edit watchers none (watchers ++ [⟨w, true⟩])
  | lower (w : Addr) : Edit watchers (some w) (setActive watchers w false)
  | inactive {w : Addr} (hoff : ∀ m ∈ watchers, m.addr = w → m.active = false) :
      Edit watchers (some w) watchers
  | erase (w : Addr) : Edit watchers (some w) (watchers.eraseP fun m => m.addr == w)

section

variable {s s' : State} {watchers watchers' : List Member} {e : Option Addr} {w : Addr}
  {m : Member} {active : Bool}

@[simp]
theorem map_addr_setActive :
    (setActive watchers w active).map Member.addr = watchers.map Member.addr := by
  rw [setActive, List.map_map]
  refine List.map_congr_left fun m _ => ?_
  by_cases h : m.addr = w <;> simp [h]

theorem mem_setActive_of_ne (hm : m ∈ watchers) (hne : m.addr ≠ w) :
    m ∈ setActive watchers w active :=
  List.mem_map.2 ⟨m, hm, if_neg hne⟩

/-- A watcher that is active after a stop of `w` is another one, and was active. -/
theorem mem_of_mem_lower (hm : m ∈ setActive watchers w false) (hact : m.active = true) :
    m ∈ watchers ∧ m.addr ≠ w := by
  obtain ⟨m', hm', rfl⟩ := List.mem_map.1 hm
  by_cases h : m'.addr = w
  · rw [if_pos h] at hact
    exact nomatch hact
  · rw [if_neg h]
    exact ⟨hm', h⟩

/-- A watcher that was active is after a start of `w`. -/
theorem exists_active_raise (hm : m ∈ watchers) (hact : m.active = true) :
    ∃ m' ∈ setActive watchers w true, m'.active = true := by
  refine ⟨_, List.mem_map.2 ⟨m, hm, rfl⟩, ?_⟩
  by_cases h : m.addr = w
  · rw [if_pos h]
  · rw [if_neg h]
    exact hact

theorem mem_eraseP_of_ne (hm : m ∈ watchers) (hne : m.addr ≠ w) :
    m ∈ watchers.eraseP fun m => m.addr == w :=
  (List.mem_eraseP_of_neg (by simpa using hne)).2 hm

/-- A watcher that is left when `w` is removed is another one. -/
theorem addr_ne_of_mem_eraseP (hnd : (watchers.map Member.addr).Nodup)
    (hm : m ∈ watchers.eraseP fun m => m.addr == w) : m.addr ≠ w := by
  induction watchers with
  | nil => exact nomatch hm
  | cons x xs ih =>
      rw [List.map_cons, List.nodup_cons] at hnd
      by_cases hx : x.addr = w
      · rw [List.eraseP_cons_of_pos (by simpa using hx)] at hm
        rintro rfl
        exact hnd.1 (hx ▸ List.mem_map_of_mem hm)
      · rw [List.eraseP_cons_of_neg (by simpa using hx), List.mem_cons] at hm
        rcases hm with rfl | hm
        · exact hx
        · exact ih hnd.2 hm

namespace Edit

theorem nodup (h : Edit watchers e watchers') (hnd : (watchers.map Member.addr).Nodup) :
    (watchers'.map Member.addr).Nodup := by
  cases h with
  | same => exact hnd
  | inactive => exact hnd
  | raise w => rwa [map_addr_setActive]
  | lower w => rwa [map_addr_setActive]
  | append hnew =>
      rw [List.map_append, List.nodup_append]
      refine ⟨hnd, List.pairwise_singleton _ _, ?_⟩
      intro a ha b hb hab
      rw [List.map_singleton, List.mem_singleton] at hb
      rw [hab, hb] at ha
      exact hnew ha
  | erase w => exact hnd.sublist ((List.eraseP_sublist).map _)

/-- A call leaves an active watcher where it does not take away the last one. -/
theorem hasActive (h : Edit watchers e watchers') (hm : m ∈ watchers) (hact : m.active = true)
    (hne : ∀ w, e = some w → m.addr ≠ w) : ∃ m' ∈ watchers', m'.active = true := by
  cases h with
  | same => exact ⟨m, hm, hact⟩
  | inactive => exact ⟨m, hm, hact⟩
  | raise w => exact exists_active_raise hm hact
  | append => exact ⟨m, List.mem_append_left _ hm, hact⟩
  | lower w => exact ⟨m, mem_setActive_of_ne hm (hne w rfl), hact⟩
  | erase w => exact ⟨m, mem_eraseP_of_ne hm (hne w rfl), hact⟩

/-- What is active after a call that takes `w` away was so before, and is not `w`. -/
theorem spares (h : Edit watchers (some w) watchers') (hnd : (watchers.map Member.addr).Nodup)
    (hm : m ∈ watchers') (hact : m.active = true) : m ∈ watchers ∧ m.addr ≠ w := by
  cases h with
  | lower => exact mem_of_mem_lower hm hact
  | inactive hoff => exact ⟨hm, fun heq => nomatch (hoff m hm heq).symm.trans hact⟩
  | erase => exact ⟨List.mem_of_mem_eraseP hm, addr_ne_of_mem_eraseP hnd hm⟩

end Edit

/-- `active` of the watcher at an address is that of every watcher there. -/
theorem active_eq_of_mem (hnd : (s.watchers.map Member.addr).Nodup) (hm : m ∈ s.watchers)
    (h : s.active m.addr = some active) : m.active = active := by
  obtain ⟨m', hfind, rfl⟩ := Option.map_eq_some_iff.1 h
  have haddr : m'.addr = m.addr := by simpa using List.find?_some hfind
  rw [List.inj_on_of_nodup_map hnd (List.mem_of_find?_eq_some hfind) hm haddr]

theorem not_mem_of_active_eq_none (h : s.active w = none) :
    w ∉ s.watchers.map Member.addr := by
  rw [State.active, Option.map_eq_none_iff, List.find?_eq_none] at h
  rintro hmem
  obtain ⟨m, hm, rfl⟩ := List.mem_map.1 hmem
  exact h m hm (by simp)

/-- The loop variables that a call leaves alone. -/
theorem step_call {l : Step} (hcount : s.loop.watcherCount = s.watchers.length)
    (hnd : (s.watchers.map Member.addr).Nodup) (hl : ∀ k, l ≠ .loop k) (hrun : l ≠ .runAgain)
    (h : step s l = some s') :
    Edit s.watchers (l.ends s) s'.watchers ∧
      s'.loop = { s.loop with watcherCount := s'.watchers.length } := by
  have hsame : s.loop = { s.loop with watcherCount := s.watchers.length } := by rw [← hcount]
  cases l with
  | loop k => exact absurd rfl (hl k)
  | runAgain => exact absurd rfl hrun
  | stop c w =>
      simp only [step] at h
      split at h
      · exact nomatch h
      · rename_i active hact
        obtain ⟨-, h⟩ := Option.ite_none_right_eq_some.1 h
        split at h
        · obtain rfl := Option.some.inj h
          exact ⟨.lower w, rfl⟩
        · rename_i hoff
          obtain rfl := Option.some.inj h
          refine ⟨.inactive fun m hm heq => ?_, hsame⟩
          rw [active_eq_of_mem hnd hm (heq ▸ hact)]
          simpa using hoff
  | destroy c w =>
      simp only [step] at h
      split at h
      · exact nomatch h
      · rename_i active hact
        obtain ⟨-, h⟩ := Option.ite_none_right_eq_some.1 h
        split at h
        · obtain rfl := Option.some.inj h
          exact ⟨.lower w, rfl⟩
        · rename_i hoff
          obtain rfl := Option.some.inj h
          refine ⟨.inactive fun m hm heq => ?_, hsame⟩
          rw [active_eq_of_mem hnd hm (heq ▸ hact)]
          simpa using hoff
  | start c w =>
      simp only [step] at h
      split at h
      · exact nomatch h
      · obtain ⟨-, h⟩ := Option.ite_none_right_eq_some.1 h
        split at h <;> obtain rfl := Option.some.inj h
        · exact ⟨.same, hsame⟩
        · exact ⟨.raise w, rfl⟩
  | create c w =>
      simp only [step, Option.ite_none_right_eq_some] at h
      obtain ⟨-, h⟩ := h
      obtain rfl := Option.some.inj h
      exact ⟨.same, hsame⟩
  | unregistered c ok =>
      simp only [step] at h
      split at h
      · obtain rfl := Option.some.inj h
        cases ok with
        | true => exact ⟨.same, hsame⟩
        | false => exact ⟨.raise _, rfl⟩
      · exact nomatch h
  | registered c ok =>
      simp only [step] at h
      split at h
      · rename_i w hpc
        obtain rfl := Option.some.inj h
        cases ok with
        | true => exact ⟨.same, hsame⟩
        | false =>
            refine ⟨?_, rfl⟩
            rw [Step.ends, hpc]
            exact .lower w
      · exact nomatch h
  | remove c =>
      simp only [step] at h
      split at h
      · rename_i w hpc
        obtain rfl := Option.some.inj h
        refine ⟨?_, rfl⟩
        rw [Step.ends, hpc]
        exact .erase w
      · exact nomatch h
  | add c ok =>
      simp only [step] at h
      split at h
      · rename_i w hpc
        obtain ⟨hnew, h⟩ := Option.ite_none_right_eq_some.1 h
        obtain rfl := Option.some.inj h
        cases ok with
        | true => exact ⟨.append (not_mem_of_active_eq_none (by simpa using hnew)), rfl⟩
        | false => exact ⟨.same, hsame⟩
      · exact nomatch h

/-! ### The loop thread -/

theorem le_epollAsyncSend (t : StopWakeup.State) :
    t.eventfd ≤ (StopWakeup.epollAsyncSend t).eventfd := by
  rw [StopWakeup.epollAsyncSend]
  dsimp only
  split <;> omega

/-- How the loop thread comes to be past its exit test. -/
theorem loop_committed {k : StopWakeup.Step} {t t' : StopWakeup.State}
    (h : StopWakeup.step t k = some t') (hpc : t'.pc = .onceCheck ∨ t'.pc = .wait) :
    (k = .check ∧ t.pc = .check ∧ t.stopRequested = false ∧ 0 < t.watcherCount ∧
        t' = { t with pc := .onceCheck }) ∨
      (k = .onceCheck ∧ t.pc = .onceCheck ∧ t.stopRequested = false ∧
        t' = { t with pc := .wait }) ∨
      (t'.pc = t.pc ∧ t.eventfd ≤ t'.eventfd ∧
        (t.stopRequested = true → t'.stopRequested = true)) := by
  cases k with
  | check =>
      simp only [StopWakeup.step, Option.ite_none_right_eq_some] at h
      obtain ⟨hcheck, h⟩ := h
      split at h <;> obtain rfl := Option.some.inj h
      · rename_i hgo
        rw [Bool.and_eq_true, Bool.not_eq_true', decide_eq_true_iff] at hgo
        exact .inl ⟨rfl, hcheck, hgo.1, hgo.2, rfl⟩
      · simp at hpc
  | onceCheck =>
      simp only [StopWakeup.step, Option.ite_none_right_eq_some] at h
      obtain ⟨honce, h⟩ := h
      obtain rfl := Option.some.inj h
      by_cases hstop : t.stopRequested = true
      · simp [hstop] at hpc
      · exact .inr (.inl ⟨rfl, honce, by simpa using hstop, by rw [if_neg hstop]⟩)
  | setRunning | resetStop | wake | interrupted | failed | endBatch =>
      simp only [StopWakeup.step, Option.ite_none_right_eq_some] at h
      obtain rfl := Option.some.inj h.2
      simp at hpc
  | drain | next =>
      simp only [StopWakeup.step] at h
      split at h
      · obtain rfl := Option.some.inj h
        simp at hpc
      · cases h
  | callback c =>
      simp only [StopWakeup.step] at h
      split at h
      · rename_i hcallback
        obtain rfl := Option.some.inj h
        cases c <;> exact absurd (hcallback ▸ hpc) (by simp)
      · cases h
  | beginStop i =>
      simp only [StopWakeup.step, Option.ite_none_right_eq_some] at h
      obtain rfl := Option.some.inj h.2
      exact .inr (.inr ⟨rfl, Nat.le_refl _, id⟩)
  | storeStop i =>
      simp only [StopWakeup.step, Option.ite_none_right_eq_some] at h
      obtain rfl := Option.some.inj h.2
      exact .inr (.inr ⟨rfl, Nat.le_refl _, fun _ => rfl⟩)
  | writeStop i =>
      simp only [StopWakeup.step, Option.ite_none_right_eq_some] at h
      obtain rfl := Option.some.inj h.2
      exact .inr (.inr ⟨rfl, le_epollAsyncSend t, id⟩)
  | asyncSend =>
      obtain rfl := Option.some.inj h
      exact .inr (.inr ⟨rfl, le_epollAsyncSend t, id⟩)

/-- The loop thread changes the count by no step of its own. -/
theorem loop_watcherCount {k : StopWakeup.Step} {t t' : StopWakeup.State}
    (h : StopWakeup.step t k = some t') (hk : ∀ n, k ≠ .callback (.setCount n)) :
    t'.watcherCount = t.watcherCount := by
  cases k with
  | setRunning | resetStop | onceCheck | wake | interrupted | failed | endBatch | beginStop
  | storeStop | writeStop =>
      simp only [StopWakeup.step, Option.ite_none_right_eq_some] at h
      obtain rfl := Option.some.inj h.2
      rfl
  | check =>
      simp only [StopWakeup.step, Option.ite_none_right_eq_some] at h
      obtain ⟨-, h⟩ := h
      split at h <;> obtain rfl := Option.some.inj h <;> rfl
  | drain | next =>
      simp only [StopWakeup.step] at h
      split at h
      · obtain rfl := Option.some.inj h
        rfl
      · cases h
  | callback c =>
      simp only [StopWakeup.step] at h
      split at h
      · obtain rfl := Option.some.inj h
        cases c with
        | setCount n => exact absurd rfl (hk n)
        | storeStop | asyncSend => rfl
      · cases h
  | asyncSend =>
      obtain rfl := Option.some.inj h
      rfl

/-! ### The invariant -/

/-- The count is that of the list, in which no watcher is twice; past its exit test the
loop has an active watcher or will be woken. -/
structure Inv (s : State) : Prop where
  counted : s.loop.watcherCount = s.watchers.length
  nodup : (s.watchers.map Member.addr).Nodup
  attended : s.Committed → s.HasActive ∨ s.Woken

theorem inv_init (h : Init s) : Inv s := by
  obtain ⟨hpc, hcount, hnd, -⟩ := h
  refine ⟨hcount, hnd, fun hc => ?_⟩
  rw [State.Committed, hpc] at hc
  simp at hc

/-- A step of the loop thread. -/
theorem inv_loop {k : StopWakeup.Step} (hinv : Inv s) (hok : Attentive s (.loop k))
    (h : step s (.loop k) = some s') : Inv s' := by
  simp only [step, Option.ite_none_right_eq_some, Option.map_eq_some_iff] at h
  obtain ⟨hmove, t, h, rfl⟩ := h
  have hk : ∀ n, k ≠ .callback (.setCount n) := by
    rintro n rfl
    exact nomatch hmove
  refine ⟨(loop_watcherCount h hk).trans hinv.counted, hinv.nodup, fun hc => ?_⟩
  rcases loop_committed h hc with ⟨rfl, -, hstop, hcount, -⟩ | ⟨rfl, hpc, hstop, rfl⟩ |
    ⟨hpc, hfd, hflag⟩
  · -- the exit test: the list is not empty, so some watcher is active
    rcases hok with hok | hok | hok
    · exact nomatch hstop.symm.trans hok
    · rw [hinv.counted, hok] at hcount
      exact absurd hcount (Nat.lt_irrefl 0)
    · exact .inl hok
  · rcases hinv.attended (.inl hpc) with hact | hfd | ⟨-, hflag⟩
    · exact .inl hact
    · exact .inr (.inl hfd)
    · exact nomatch hstop.symm.trans hflag
  · rcases hinv.attended (by rwa [State.Committed, ← hpc]) with hact | hpos | ⟨honce, hset⟩
    · exact .inl hact
    · exact .inr (.inl (Nat.lt_of_lt_of_le hpos hfd))
    · exact .inr (.inr ⟨hpc.trans honce, hflag hset⟩)

/-- A step of a call. -/
theorem inv_call {l : Step} (hinv : Inv s) (hl : ∀ k, l ≠ .loop k) (hrun : l ≠ .runAgain)
    (hok : ∀ w, l.ends s = some w → s.Committed →
      s.Woken ∨ ∃ m ∈ s.watchers, m.addr ≠ w ∧ m.active = true)
    (h : step s l = some s') : Inv s' := by
  obtain ⟨hedit, hloop⟩ := step_call hinv.counted hinv.nodup hl hrun h
  refine ⟨by rw [hloop], hedit.nodup hinv.nodup, fun hc => ?_⟩
  rw [State.Committed, hloop] at hc
  have hwoken : s.Woken → s'.Woken := by
    rw [State.Woken, State.Woken, hloop]
    exact id
  rcases hinv.attended hc with ⟨m, hm, hact⟩ | hwake
  · cases hends : l.ends s with
    | none =>
        exact .inl (hedit.hasActive hm hact fun w heq => nomatch hends.symm.trans heq)
    | some w =>
        rcases hok w hends hc with hwake | ⟨m', hm', hne, hact'⟩
        · exact .inr (hwoken hwake)
        · refine .inl (hedit.hasActive hm' hact' fun v heq => ?_)
          rwa [← Option.some.inj (hends.symm.trans heq)]
  · exact .inr (hwoken hwake)

theorem inv_step {l : Step} (hinv : Inv s) (hok : Attentive s l) (h : step s l = some s') :
    Inv s' := by
  cases l with
  | loop k => exact inv_loop hinv hok h
  | runAgain =>
      obtain ⟨-, h⟩ := Option.ite_none_right_eq_some.1 h
      obtain rfl := Option.some.inj h
      exact ⟨hinv.counted, hinv.nodup, fun hc => by simp [State.Committed] at hc⟩
  | stop | destroy | start | create | unregistered | registered | remove | add =>
      exact inv_call hinv (fun k => by simp) (by simp) hok h

/-- A blocked loop has an active watcher. -/
theorem Inv.not_blocked (hinv : Inv s) (hidle : ¬s.HasActive) : ¬s.Blocked := by
  rintro ⟨hpc, hfd⟩
  rcases hinv.attended (.inr hpc) with hact | hpos | ⟨honce, -⟩
  · exact hidle hact
  · omega
  · exact nomatch hpc.symm.trans honce

/-- An exit test that finds no active watcher, in an attentive run, ends the loop. -/
theorem returns_of_check (hidle : ¬s.HasActive) (hcount : s.loop.watcherCount = s.watchers.length)
    (hok : Attentive s (.loop .check)) (h : step s (.loop .check) = some s') :
    s'.loop.pc = .returned := by
  simp only [step, Option.ite_none_right_eq_some, Option.map_eq_some_iff, StopWakeup.step] at h
  obtain ⟨-, t, ⟨-, h⟩, rfl⟩ := h
  split at h <;> obtain rfl := Option.some.inj h
  · rename_i hgo
    rw [Bool.and_eq_true, Bool.not_eq_true', decide_eq_true_iff] at hgo
    rcases hok with hok | hok | hok
    · exact absurd (hgo.1.symm.trans hok) Bool.false_ne_true
    · rw [hcount, hok] at hgo
      exact absurd hgo.2 (Nat.lt_irrefl 0)
    · exact absurd hok hidle
  · rfl

/-! ### A run that is not attentive -/

/-- A loop without an active watcher that is past its test, with nothing to wake it,
blocks. -/
theorem blocks_of_committed (hidle : ¬s.HasActive) (hc : s.Committed) (hno : ¬s.Woken) :
    ∃ ls s', Machine.run step s ls = some s' ∧ ¬s'.HasActive ∧ s'.Blocked := by
  have hfd : s.loop.eventfd = 0 := by
    by_contra hne
    exact hno (.inl (Nat.pos_of_ne_zero hne))
  rcases hc with hpc | hpc
  · have hflag : ¬s.loop.stopRequested = true := fun hset => hno (.inr ⟨hpc, hset⟩)
    refine ⟨[.loop .onceCheck], { s with loop := { s.loop with pc := .wait } }, ?_, hidle,
      rfl, hfd⟩
    simp [Machine.run, step, StopWakeup.step, State.mayMove, hpc, hflag]
  · exact ⟨[], s, rfl, hidle, hpc, hfd⟩

/-- A loop whose exit test finds a watcher, but no active one, blocks: a readable eventfd
only takes it once more round. -/
theorem blocks_of_test (hidle : ¬s.HasActive) (hpc : s.loop.pc = .onceCheck)
    (hflag : s.loop.stopRequested = false) (hcount : 0 < s.loop.watcherCount) :
    ∃ ls s', Machine.run step s ls = some s' ∧ ¬s'.HasActive ∧ s'.Blocked := by
  rcases Nat.eq_zero_or_pos s.loop.eventfd with hfd | hfd
  · refine blocks_of_committed hidle (.inl hpc) ?_
    rintro (hpos | ⟨-, hset⟩)
    · omega
    · exact nomatch hflag.symm.trans hset
  · refine ⟨[.loop .onceCheck, .loop (.wake [.eventfd]), .loop .drain, .loop .endBatch,
      .loop .check, .loop .onceCheck],
      { s with loop := { s.loop with pc := .wait, eventfd := 0 } }, ?_, hidle, rfl, rfl⟩
    simp [Machine.run, step, StopWakeup.step, State.mayMove, hpc, hflag, hfd, hcount]

/-- A step that is not attentive leads there. -/
theorem idles_of_not_attentive {l : Step} (hinv : Inv s) (hno : ¬Attentive s l)
    (h : step s l = some s') :
    ∃ ls s'', Machine.run step s' ls = some s'' ∧ ¬s''.HasActive ∧ s''.Blocked := by
  by_cases hl : l = .loop .check
  · subst hl
    rw [Attentive, not_or, not_or] at hno
    obtain ⟨hflag, hne, hidle⟩ := hno
    have hcount : 0 < s.loop.watcherCount := by
      rw [hinv.counted]
      exact List.length_pos_of_ne_nil hne
    simp only [step, Option.ite_none_right_eq_some, Option.map_eq_some_iff, StopWakeup.step] at h
    obtain ⟨-, t, ⟨-, h⟩, rfl⟩ := h
    rw [if_pos (by simp [hflag, hcount])] at h
    obtain rfl := Option.some.inj h
    exact blocks_of_test hidle rfl (by simpa using hflag) hcount
  · -- a call that takes the last active watcher away
    have hends : ∃ w, l.ends s = some w ∧ s.Committed ∧ ¬s.Woken ∧
        ∀ m ∈ s.watchers, m.addr ≠ w → ¬m.active = true := by
      cases l with
      | loop k =>
          refine absurd ?_ hno
          cases k <;> first
            | exact absurd rfl hl
            | exact fun w heq => by cases heq
      | runAgain | stop | destroy | start | create | unregistered | registered | remove | add =>
          simpa [Attentive] using hno
    obtain ⟨w, hends, hc, hwake, hlast⟩ := hends
    have hcall : (∀ k, l ≠ .loop k) ∧ l ≠ .runAgain := by
      refine ⟨?_, ?_⟩
      · rintro k rfl
        cases hends
      · rintro rfl
        cases hends
    obtain ⟨hedit, hloop⟩ := step_call hinv.counted hinv.nodup hcall.1 hcall.2 h
    rw [hends] at hedit
    refine blocks_of_committed ?_ ?_ ?_
    · rintro ⟨m, hm, hact⟩
      obtain ⟨hm, hne⟩ := hedit.spares hinv.nodup hm hact
      exact hlast m hm hne hact
    · rw [State.Committed, hloop]
      exact hc
    · rw [State.Woken, hloop]
      exact hwake

end

/-- In the runs in which the exit test agrees with the flags, and no call takes the last
active watcher away behind it, a loop without an active watcher is not blocked and returns
at its next exit test.  Any other step of such a run leads to a loop that is blocked for
good without an active watcher. -/
theorem never_idle {s : State} (h : runs.Reach Attentive s) :
    (¬s.HasActive → ¬s.Blocked) ∧
      (∀ s', ¬s.HasActive → Attentive s (.loop .check) → step s (.loop .check) = some s' →
        s'.loop.pc = .returned) ∧
      ∀ l s', ¬Attentive s l → step s l = some s' →
        ∃ ls s'', Machine.run step s' ls = some s'' ∧ ¬s''.HasActive ∧ s''.Blocked := by
  have hinv : Inv s := h.invariant (fun _ => inv_init) fun _ _ _ hi hok hnext =>
    inv_step hi hok hnext
  refine ⟨hinv.not_blocked, fun s' hidle hok hstep => ?_, fun l s' hno hstep => ?_⟩
  · exact returns_of_check hidle hinv.counted hok hstep
  · exact idles_of_not_attentive hinv hno hstep

/-- A loop with one watcher, active, before its run. -/
def oneActive : State where
  loop := { StopWakeup.oneWatcher with watcherCount := 1 }
  watchers := [⟨100, true⟩]
  calls _ := .idle

theorem init_oneActive : runs.init oneActive :=
  ⟨rfl, rfl, List.pairwise_singleton _ _, fun _ => rfl⟩

/-- The loop waits for its watcher. -/
def waiting : List Step :=
  [.loop .setRunning, .loop .resetStop, .loop .check, .loop .onceCheck]

/-- The watcher is ready, and destroys itself in its callback. -/
def destroyed : List Step :=
  waiting ++ [.loop (.wake [.watcher]), .destroy none 100, .unregistered none true, .remove none,
    .loop .next, .loop .endBatch]

/-- The loop then returns. -/
theorem destroyed_returns : ∃ s s', Machine.runGuarded Attentive step oneActive destroyed = some s ∧
    ¬s.HasActive ∧ ¬s.Blocked ∧ step s (.loop .check) = some s' ∧ s'.loop.pc = .returned := by
  have hrun : ∃ s s', Machine.runGuarded Attentive step oneActive destroyed = some s ∧
      ¬s.HasActive ∧ Attentive s (.loop .check) ∧ step s (.loop .check) = some s' :=
    ⟨_, _, rfl, by decide, by decide, rfl⟩
  obtain ⟨s, s', hrun, hidle, hok, hstep⟩ := hrun
  obtain ⟨hblocked, hreturns, -⟩ := never_idle (.runGuarded (.init init_oneActive) hrun)
  exact ⟨s, s', hrun, hidle, hblocked hidle, hstep, hreturns s' hidle hok hstep⟩

/-- The watcher is ready, and stops itself in its callback. -/
def stopped : List Step :=
  waiting ++ [.loop (.wake [.watcher]), .stop none 100, .unregistered none true, .loop .next,
    .loop .endBatch, .loop .check, .loop .onceCheck]

/-- The loop then waits for a watcher that is not registered. -/
theorem not_never_idle : ¬∀ s, runs.Reachable s → ¬s.HasActive → ¬s.Blocked := by
  intro h
  have hrun : ∃ s, Machine.run step oneActive stopped = some s ∧ ¬s.HasActive ∧ s.Blocked :=
    ⟨_, rfl, by decide, by decide, by decide⟩
  obtain ⟨s, hrun, hidle, hblocked⟩ := hrun
  exact h s (Machine.Reach.run (.init init_oneActive) hrun) hidle hblocked

end IdleWait
end PollDancer
