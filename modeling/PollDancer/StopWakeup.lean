/-
# Stopping a running loop from another thread

`pd_loop_run`, `pd_loop_run_once` and `pd_loop_stop` of `src/loop.c` over
`epoll_loop_run` and `epoll_async_send`, as the steps of a loop thread and of any
number of stopping threads.  A stop stores `stop_requested` and then writes the
eventfd; the loop looks at the flag twice before it blocks, and drains the eventfd
when it dispatches it.

The store comes before the write, so a loop that blocks in spite of the stop has
looked at the flag before the store, and the write is still to come: `Inv`.  The
argument needs the flag to stay set, and `pd_loop_run` clears it after it has set
`running`.  A stop that falls between the two is lost (`not_stop_kept`); a stop whose
store does not is kept (`stop_kept`).
-/
import PollDancer.Library.Machine
import Mathlib.Logic.Function.Basic
import Mathlib.Tactic.Common

namespace PollDancer
namespace StopWakeup

open Library

/-- An event of one wait: the eventfd, or some watcher. -/
inductive Item
  | eventfd
  | watcher
  deriving DecidableEq, Repr

/-- Where the loop thread is. -/
inductive Pc
  /-- Before `loop->running = 1`. -/
  | start
  /-- Before `loop->stop_requested = 0`. -/
  | reset
  /-- At the condition of the `while` of `pd_loop_run`. -/
  | check
  /-- At the locked check of `pd_loop_run_once`. -/
  | onceCheck
  /-- In `epoll_wait`. -/
  | wait
  /-- In the `for` of `epoll_loop_run`, with the events still to dispatch. -/
  | dispatch (batch : List Item)
  | returned
  deriving DecidableEq, Repr

/-- Where a thread is in `pd_loop_stop`. -/
inductive StopPc
  | idle
  /-- Before the store of `stop_requested`. -/
  | begun
  /-- Between the store and the write to the eventfd. -/
  | stored
  | done
  deriving DecidableEq, Repr

/-- The shared state and the position of every thread. -/
structure State where
  pc : Pc
  running : Bool
  stopRequested : Bool
  watcherCount : ℕ
  eventfd : ℕ
  stoppers : ℕ → StopPc

/-- What a callback can do to the variables of this module. -/
inductive CallbackStep
  /-- The flag store of a `pd_loop_stop` on the loop thread. -/
  | storeStop
  /-- A write to the eventfd, of that stop or of `pd_loop_async_send`. -/
  | asyncSend
  | setCount (n : ℕ)
  deriving DecidableEq, Repr

/-- The atomic steps. -/
inductive Step
  | setRunning
  | resetStop
  | check
  | onceCheck
  /-- `epoll_wait` returns events. -/
  | wake (batch : List Item)
  /-- `epoll_wait` fails with `EINTR`. -/
  | interrupted
  /-- `epoll_wait` fails otherwise. -/
  | failed
  /-- The eventfd's event: `read` resets the counter. -/
  | drain
  | callback (step : CallbackStep)
  /-- The callback of the current event returns. -/
  | next
  | endBatch
  | beginStop (i : ℕ)
  | storeStop (i : ℕ)
  | writeStop (i : ℕ)
  /-- `pd_loop_async_send` of another thread writes the eventfd. -/
  | asyncSend
  deriving DecidableEq, Repr

/-- The largest value of an eventfd counter. -/
def eventfdMax : ℕ := 0xFFFFFFFFFFFFFFFE

/-- `epoll_async_send`: `write` adds one; when the counter is full it fails with
`EAGAIN`, which is ignored. -/
def epollAsyncSend (s : State) : State :=
  { s with eventfd := if s.eventfd < eventfdMax then s.eventfd + 1 else s.eventfd }

/-- A stopping thread moves. -/
def setStopper (s : State) (i : ℕ) (pc : StopPc) : State :=
  { s with stoppers := Function.update s.stoppers i pc }

/-- A callback's step. -/
def callbackStep (s : State) : CallbackStep → State
  | .storeStop => { s with stopRequested := true }
  | .asyncSend => epollAsyncSend s
  | .setCount n => { s with watcherCount := n }

/-- The state after a step, `none` where the step cannot be taken. -/
def step (s : State) : Step → Option State
  | .setRunning => if s.pc = .start then some { s with pc := .reset, running := true } else none
  | .resetStop =>
      if s.pc = .reset then some { s with pc := .check, stopRequested := false } else none
  | .check =>
      if s.pc = .check then
        if !s.stopRequested && s.watcherCount > 0 then some { s with pc := .onceCheck }
        else some { s with pc := .returned, running := false }
      else none
  | .onceCheck =>
      if s.pc = .onceCheck then
        some { s with pc := if s.stopRequested then .check else .wait }
      else none
  | .wake batch =>
      -- level-triggered: the eventfd is reported only while its counter is positive
      if s.pc = .wait ∧ batch ≠ [] ∧ (.eventfd ∈ batch → 0 < s.eventfd) then
        some { s with pc := .dispatch batch }
      else none
  | .interrupted => if s.pc = .wait then some { s with pc := .check } else none
  | .failed => if s.pc = .wait then some { s with pc := .returned, running := false } else none
  | .drain =>
      match s.pc with
      | .dispatch (.eventfd :: batch) => some { s with pc := .dispatch batch, eventfd := 0 }
      | _ => none
  | .callback c =>
      match s.pc with
      | .dispatch (.watcher :: _) => some (callbackStep s c)
      | _ => none
  | .next =>
      match s.pc with
      | .dispatch (.watcher :: batch) => some { s with pc := .dispatch batch }
      | _ => none
  | .endBatch => if s.pc = .dispatch [] then some { s with pc := .check } else none
  | .beginStop i =>
      if s.running ∧ s.stoppers i = .idle then some (setStopper s i .begun) else none
  | .storeStop i =>
      if s.stoppers i = .begun then some (setStopper { s with stopRequested := true } i .stored)
      else none
  | .writeStop i =>
      if s.stoppers i = .stored then some (setStopper (epollAsyncSend s) i .done) else none
  | .asyncSend => some (epollAsyncSend s)

/-- A run of `pd_loop_run` on a loop that has watchers: the flag and the eventfd may
hold anything, and no stop has begun. -/
def Init (s : State) : Prop :=
  s.pc = .start ∧ s.running = false ∧ 0 < s.watcherCount ∧ ∀ i, s.stoppers i = .idle

/-- The runs of the loop thread and the stopping threads. -/
def runs : Machine State Step := Machine.ofFun Init step

/-- A stop has been completed, and the loop thread is blocked with nothing to wake it. -/
def Lost (s : State) : Prop := ∃ i, s.stoppers i = .done ∧ s.pc = .wait ∧ s.eventfd = 0

/-- No stop stores the flag between `running = 1` and `stop_requested = 0`. -/
def StoreOutsideReset (s : State) : Step → Prop
  | .storeStop _ => s.pc ≠ .reset
  | _ => True

instance (s : State) (l : Step) : Decidable (StoreOutsideReset s l) :=
  match l with
  | .storeStop _ => inferInstanceAs (Decidable (s.pc ≠ .reset))
  | .setRunning | .resetStop | .check | .onceCheck | .wake _ | .interrupted | .failed | .drain
  | .callback _ | .next | .endBatch | .beginStop _ | .writeStop _ | .asyncSend =>
      inferInstanceAs (Decidable True)

/-- A stop that has stored its flag. -/
def HasStored (s : State) (i : ℕ) : Prop := s.stoppers i = .stored ∨ s.stoppers i = .done

/-- Nobody stops a loop before it runs; nobody has stored the flag while it is about
to be cleared; a stored flag stays set; a completed stop keeps a blocked loop's
eventfd readable. -/
structure Inv (s : State) : Prop where
  quiet : s.pc = .start → s.running = false ∧ ∀ i, s.stoppers i = .idle
  unstored : s.pc = .start ∨ s.pc = .reset → ∀ i, ¬HasStored s i
  flagged : ∀ i, HasStored s i → s.stopRequested = true
  readable : s.pc = .wait → ∀ i, s.stoppers i = .done → 0 < s.eventfd

section

variable {s s' : State} {i : ℕ}

theorem inv_init (h : Init s) : Inv s := by
  obtain ⟨-, hrun, -, hidle⟩ := h
  have hno : ∀ i, ¬HasStored s i := by
    intro i hi
    rcases hi with hi | hi <;> exact nomatch (hidle i).symm.trans hi
  exact ⟨fun _ => ⟨hrun, hidle⟩, fun _ => hno, fun i hi => absurd hi (hno i),
    fun _ i hi => absurd (Or.inr hi) (hno i)⟩

/-- A send leaves the eventfd readable. -/
theorem eventfd_epollAsyncSend_pos (s : State) : 0 < (epollAsyncSend s).eventfd := by
  unfold epollAsyncSend
  dsimp only
  split
  · omega
  · rename_i hfull
    have hmax : 0 < eventfdMax := by decide
    omega

theorem inv_asyncSend (h : Inv s) : Inv (epollAsyncSend s) :=
  ⟨h.quiet, h.unstored, h.flagged, fun _ _ _ => eventfd_epollAsyncSend_pos s⟩

/-- The loop thread moves on, to a position where it is not blocked, with the flag as
it is or set. -/
theorem inv_move (h : Inv s) (hpc : s'.pc ≠ .start ∧ s'.pc ≠ .reset ∧ s'.pc ≠ .wait)
    (hflag : s.stopRequested = true → s'.stopRequested = true)
    (hstop : s'.stoppers = s.stoppers) : Inv s' where
  quiet := fun heq => absurd heq hpc.1
  unstored := fun heq => by
    rcases heq with heq | heq
    · exact absurd heq hpc.1
    · exact absurd heq hpc.2.1
  flagged := by
    intro i hi
    rw [HasStored, hstop] at hi
    exact hflag (h.flagged i hi)
  readable := fun heq => absurd heq hpc.2.2

/-- A stopping thread moves. -/
theorem hasStored_setStopper {pc : StopPc} {j : ℕ} :
    HasStored (setStopper s i pc) j ↔
      (j = i ∧ (pc = .stored ∨ pc = .done)) ∨ (j ≠ i ∧ HasStored s j) := by
  rcases eq_or_ne j i with rfl | hne
  · simp [HasStored, setStopper]
  · simp [HasStored, setStopper, hne]

/-- A position that the moving thread does not take was another thread's before. -/
theorem setStopper_eq {pc pc' : StopPc} {j : ℕ} (hpc : pc' ≠ pc)
    (h : (setStopper s i pc').stoppers j = pc) : j ≠ i ∧ s.stoppers j = pc := by
  rcases eq_or_ne j i with rfl | hne
  · exact absurd (by simpa [setStopper] using h) hpc
  · exact ⟨hne, by simpa [setStopper, hne] using h⟩

/-- What one step preserves. -/
theorem inv_step {l : Step} (h : Inv s) (hok : StoreOutsideReset s l)
    (hstep : step s l = some s') : Inv s' := by
  cases l with
  | setRunning =>
      simp only [step, Option.ite_none_right_eq_some] at hstep
      obtain ⟨hpc, hs⟩ := hstep
      obtain rfl := Option.some.inj hs
      exact ⟨fun heq => (nomatch heq), fun _ => h.unstored (Or.inl hpc), h.flagged,
        fun heq => (nomatch heq)⟩
  | resetStop =>
      simp only [step, Option.ite_none_right_eq_some] at hstep
      obtain ⟨hpc, hs⟩ := hstep
      obtain rfl := Option.some.inj hs
      -- nobody has stored the flag that is cleared here
      refine ⟨fun heq => (nomatch heq), fun heq => ?_, fun i hi => ?_, fun heq => (nomatch heq)⟩
      · rcases heq with heq | heq <;> exact nomatch heq
      · exact absurd hi (h.unstored (Or.inr hpc) i)
  | check =>
      simp only [step, Option.ite_none_right_eq_some] at hstep
      obtain ⟨hpc, hs⟩ := hstep
      split at hs <;> obtain rfl := Option.some.inj hs <;>
        exact inv_move h ⟨by simp, by simp, by simp⟩ id rfl
  | onceCheck =>
      simp only [step, Option.ite_none_right_eq_some] at hstep
      obtain ⟨hpc, hs⟩ := hstep
      obtain rfl := Option.some.inj hs
      by_cases hflag : s.stopRequested = true
      · rw [if_pos hflag]
        exact inv_move h ⟨by simp, by simp, by simp⟩ id rfl
      · rw [if_neg hflag]
        -- the flag is clear: no stop has stored it, and none is completed
        have hno : ∀ i, ¬HasStored s i := fun i hi => hflag (h.flagged i hi)
        exact ⟨fun heq => (nomatch heq), fun _ => hno, h.flagged,
          fun _ i hi => absurd (Or.inr hi) (hno i)⟩
  | wake batch =>
      simp only [step, Option.ite_none_right_eq_some] at hstep
      obtain ⟨-, hs⟩ := hstep
      obtain rfl := Option.some.inj hs
      exact inv_move h ⟨by simp, by simp, by simp⟩ id rfl
  | interrupted =>
      simp only [step, Option.ite_none_right_eq_some] at hstep
      obtain ⟨-, hs⟩ := hstep
      obtain rfl := Option.some.inj hs
      exact inv_move h ⟨by simp, by simp, by simp⟩ id rfl
  | failed =>
      simp only [step, Option.ite_none_right_eq_some] at hstep
      obtain ⟨-, hs⟩ := hstep
      obtain rfl := Option.some.inj hs
      exact inv_move h ⟨by simp, by simp, by simp⟩ id rfl
  | drain =>
      simp only [step] at hstep
      split at hstep
      · obtain rfl := Option.some.inj hstep
        exact inv_move h ⟨by simp, by simp, by simp⟩ id rfl
      · exact nomatch hstep
  | callback c =>
      simp only [step] at hstep
      split at hstep
      · rename_i hpc
        obtain rfl := Option.some.inj hstep
        have hne : s.pc ≠ .start ∧ s.pc ≠ .reset ∧ s.pc ≠ .wait := by simp [hpc]
        cases c with
        | storeStop => exact inv_move h hne (fun _ => rfl) rfl
        | asyncSend => exact inv_asyncSend h
        | setCount n => exact inv_move h hne id rfl
      · exact nomatch hstep
  | next =>
      simp only [step] at hstep
      split at hstep
      · obtain rfl := Option.some.inj hstep
        exact inv_move h ⟨by simp, by simp, by simp⟩ id rfl
      · exact nomatch hstep
  | endBatch =>
      simp only [step, Option.ite_none_right_eq_some] at hstep
      obtain ⟨-, hs⟩ := hstep
      obtain rfl := Option.some.inj hs
      exact inv_move h ⟨by simp, by simp, by simp⟩ id rfl
  | beginStop i =>
      simp only [step, Option.ite_none_right_eq_some] at hstep
      obtain ⟨⟨hrun, hidle⟩, hs⟩ := hstep
      obtain rfl := Option.some.inj hs
      have hback : ∀ j, HasStored (setStopper s i .begun) j → HasStored s j := by
        intro j hj
        rcases hasStored_setStopper.1 hj with ⟨-, hpc | hpc⟩ | ⟨-, hj⟩
        · exact nomatch hpc
        · exact nomatch hpc
        · exact hj
      refine ⟨fun heq => ?_, fun heq j hj => h.unstored heq j (hback j hj),
        fun j hj => h.flagged j (hback j hj), fun heq j hj => ?_⟩
      · exact nomatch (h.quiet heq).1.symm.trans hrun
      · obtain ⟨hne, hdone⟩ := setStopper_eq (by simp) hj
        exact h.readable heq j hdone
  | storeStop i =>
      simp only [step, Option.ite_none_right_eq_some] at hstep
      obtain ⟨hbegun, hs⟩ := hstep
      obtain rfl := Option.some.inj hs
      have hstart : s.pc ≠ .start := fun heq => nomatch ((h.quiet heq).2 i).symm.trans hbegun
      refine ⟨fun heq => absurd heq hstart, fun heq => ?_, fun _ _ => rfl, fun heq j hj => ?_⟩
      · rcases heq with heq | heq
        · exact absurd heq hstart
        · exact absurd heq hok
      · obtain ⟨hne, hdone⟩ := setStopper_eq (by simp) hj
        exact h.readable heq j hdone
  | writeStop i =>
      simp only [step, Option.ite_none_right_eq_some] at hstep
      obtain ⟨hstored, hs⟩ := hstep
      obtain rfl := Option.some.inj hs
      have hback : ∀ j, HasStored (setStopper (epollAsyncSend s) i .done) j → HasStored s j := by
        intro j hj
        rcases hasStored_setStopper.1 hj with ⟨rfl, -⟩ | ⟨-, hj⟩
        · exact Or.inl hstored
        · exact hj
      refine ⟨fun heq => ?_, fun heq j hj => h.unstored heq j (hback j hj),
        fun j hj => h.flagged j (hback j hj), fun _ _ _ => eventfd_epollAsyncSend_pos s⟩
      exact nomatch ((h.quiet heq).2 i).symm.trans hstored
  | asyncSend =>
      obtain rfl := Option.some.inj hstep
      exact inv_asyncSend h

end

/-- A stop whose flag store does not fall between the two assignments of
`pd_loop_run` is never lost: in every run in which no store does, no state has a
completed stop and the loop blocked with nothing to wake it. -/
theorem stop_kept {s : State} (h : runs.Reach StoreOutsideReset s) : ¬Lost s := by
  have hinv : Inv s := h.invariant (fun _ => inv_init) fun _ _ _ hi hok hnext =>
    inv_step hi hok hnext
  rintro ⟨i, hdone, hwait, hzero⟩
  have hpos := hinv.readable hwait i hdone
  omega

/-- A loop with one watcher, before its run. -/
def oneWatcher : State where
  pc := .start
  running := false
  stopRequested := false
  watcherCount := 1
  eventfd := 0
  stoppers _ := .idle

theorem init_oneWatcher : runs.init oneWatcher := ⟨rfl, rfl, Nat.one_pos, fun _ => rfl⟩

/-- A stop that finds the loop about to block, and wakes it. -/
def stoppedAtWait : List Step :=
  [.setRunning, .resetStop, .check, .onceCheck, .beginStop 0, .storeStop 0, .writeStop 0]

/-- The state in which that stop is completed and the loop still blocked. -/
theorem stoppedAtWait_kept : ∃ s, Machine.runGuarded StoreOutsideReset step oneWatcher
    stoppedAtWait = some s ∧ s.stoppers 0 = .done ∧ s.pc = .wait ∧ ¬Lost s := by
  have hrun : ∃ s, Machine.runGuarded StoreOutsideReset step oneWatcher stoppedAtWait = some s ∧
      s.stoppers 0 = .done ∧ s.pc = .wait := ⟨_, rfl, by decide, by decide⟩
  obtain ⟨s, hrun, hdone, hwait⟩ := hrun
  exact ⟨s, hrun, hdone, hwait, stop_kept (.runGuarded (.init init_oneWatcher) hrun)⟩

/-- A stop whose store falls between the two assignments: the loop clears the flag,
blocks, drains the wake-up and blocks again. -/
def stoppedAtReset : List Step :=
  [.setRunning, .beginStop 0, .storeStop 0, .resetStop, .check, .onceCheck, .writeStop 0,
    .wake [.eventfd], .drain, .endBatch, .check, .onceCheck]

/-- A stop made during a run can be lost. -/
theorem not_stop_kept : ¬∀ s, runs.Reachable s → ¬Lost s := by
  intro h
  have hrun : ∃ s, Machine.run step oneWatcher stoppedAtReset = some s ∧ Lost s :=
    ⟨_, rfl, 0, by decide, by decide, by decide⟩
  obtain ⟨s, hrun, hlost⟩ := hrun
  exact h s (Machine.Reach.run (.init init_oneWatcher) hrun) hlost

end StopWakeup
end PollDancer
