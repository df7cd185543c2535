/-
# The calls on an IOCP timer

`pd_timer_start` and `pd_timer_stop` of `src/timer.c` with `iocp_timer_start` and
`iocp_timer_stop` of `src/platform/iocp.c`, as whole calls with the data they pass on: the
due time and the period of the queue timer, which are `DWORD`s.

What the calls do between the accesses of other threads is in `PollDancer.Iocp.Timer`, where
nothing depends on the two numbers; `start_agrees` and `stop_agrees` say that a call made
here does there what it does here.
-/
import PollDancer.Iocp.Backend
import PollDancer.Iocp.Timer

namespace PollDancer
namespace Iocp
namespace Timer

open Library

/-- `ERROR_IO_PENDING`. -/
def ERROR_IO_PENDING : WinError := 997

/-- What `CreateTimerQueueTimer` is told, in milliseconds.  A period of zero makes a timer
that expires once. -/
structure QueueTimer where
  dueTime : UInt32
  period : UInt32
  deriving DecidableEq, Repr

/-- A timer, the queue timer that may expire, and the error of the loop. -/
structure TimerState where
  timer : PdTimer IocpTimerData
  queueTimer : Option QueueTimer
  systemError : Option WinError

/-- `timer->active` is written. -/
def TimerState.setActive (s : TimerState) (active : Bool) : TimerState :=
  { s with timer := { s.timer with active } }

/-- `pd_set_system_error`. -/
def TimerState.setError (s : TimerState) (e : WinError) : TimerState :=
  { s with systemError := some e }

/-- The casts of `iocp_timer_start`. -/
def queueTimerFor (tm : PdTimer IocpTimerData) : QueueTimer where
  dueTime := tm.timeoutMs.toUInt32
  period := tm.intervalMs.toUInt32

/-- `iocp_timer_start`.  `refused` is the answer of `CreateTimerQueueTimer`. -/
def iocpTimerStart (s : TimerState) (refused : Option WinError) : TimerState × PdError :=
  match s.timer.platformData with
  | none => (s, .invalidArg)
  | some d =>
    match refused with
    | some e => (s.setError e, .system)
    | none =>
      ({ s with
          timer :=
            { s.timer with platformData := some { d with queueTimer := true, started := true } }
          queueTimer := some (queueTimerFor s.timer) }, .ok)

/-- `iocp_timer_stop`.  `refused` is the answer of `DeleteTimerQueueTimer`, which has
deleted the queue timer also where it answers `ERROR_IO_PENDING`. -/
def iocpTimerStop (s : TimerState) (refused : Option WinError) : TimerState × PdError :=
  match s.timer.platformData with
  | none => (s, .ok)
  | some d =>
    if !d.started then (s, .ok)
    else
      match refused.filter (· != ERROR_IO_PENDING) with
      | some e => (s.setError e, .system)
      | none =>
        ({ s with
            timer := { s.timer with
              platformData := some { d with queueTimer := false, started := false } }
            queueTimer := none }, .ok)

/-- `pd_timer_start`. -/
def pdTimerStart (s : TimerState) (refused : Option WinError) : TimerState × PdError :=
  if s.timer.active then (s, .ok)
  else
    let r := iocpTimerStart (s.setActive true) refused
    if r.2 ≠ .ok then (r.1.setActive false, r.2) else (r.1, .ok)

/-- `pd_timer_stop`. -/
def pdTimerStop (s : TimerState) (refused : Option WinError) : TimerState × PdError :=
  if !s.timer.active then (s, .ok)
  else
    let r := iocpTimerStop (s.setActive false) refused
    if r.2 ≠ .ok then (r.1.setActive true, r.2) else (r.1, .ok)

/-- The threads' view of the timer. -/
structure Shows (w : State) (s : TimerState) : Prop where
  idle : w.api = .idle
  timer : w.timer = some ⟨s.timer.active, s.timer.platformData.isSome⟩
  data : ∀ d, s.timer.platformData = some d → w.data = some d
  queueTimer : w.queueTimer.isSome = s.queueTimer.isSome

section Agreement

variable {w : State} {s : TimerState} {d : IocpTimerData} {refused : Option WinError}

theorem setActive_self {b : Bool} (hact : s.timer.active = b) : s.setActive b = s := by
  rw [TimerState.setActive, ← hact]

/-- A start does to the shared memory what it does here. -/
theorem start_agrees (h : Shows w s) :
    ∃ w', step w (.start refused.isNone) = some w' ∧ Shows w' (pdTimerStart s refused).1 := by
  rw [step, if_pos h.idle, startStep, h.timer, pdTimerStart, Option.bind_eq_bind, Option.bind_some]
  cases hact : s.timer.active with
  | true => exact ⟨w, by rw [if_pos rfl], by rwa [if_pos rfl]⟩
  | false =>
      rw [if_neg Bool.false_ne_true, if_neg Bool.false_ne_true, iocpTimerStart]
      cases hp : s.timer.platformData with
      | none =>
          have hsame : (s.setActive true).setActive false = s := setActive_self hact
          refine ⟨w, rfl, ?_⟩
          simp only [show (s.setActive true).timer.platformData = none from hp, ne_eq, reduceCtorEq,
            not_false_eq_true, if_true, hsame]
          exact h
      | some d =>
          simp only [show (s.setActive true).timer.platformData = some d from hp, h.data d hp,
            Option.isSome_some, Bool.not_true, Bool.false_eq_true, if_false]
          cases refused with
          | some e =>
              refine ⟨w, rfl, h.idle, h.timer.trans ?_, h.data, h.queueTimer⟩
              rw [hact]
              rfl
          | none => exact ⟨_, rfl, h.idle, rfl, fun _ hd => hd, rfl⟩

/-- Is the queue timer deleted? -/
def deleted (refused : Option WinError) : Bool := (refused.filter (· != ERROR_IO_PENDING)).isNone

/-- The accesses of a stop of a timer that has been started. -/
def stopSteps (refused : Option WinError) : List Step :=
  [.stop false, .api true, .api true, .api (deleted refused)] ++
    if deleted refused then [.wake, .api true] else [.api true]

/-- So does a stop, when no `iocp_timer_callback` is running. -/
theorem stop_agrees (h : Shows w s) (hpool : w.pool = none) (hact : s.timer.active = true)
    (hp : s.timer.platformData = some d) (hstarted : d.started = true) :
    ∃ w', Machine.run step w (stopSteps refused) = some w' ∧
      Shows w' (pdTimerStop s refused).1 := by
  have hdata := h.data d hp
  have htimer : w.timer = some ⟨true, true⟩ := by rw [h.timer, hact, hp]; rfl
  have hidle := h.idle
  rw [pdTimerStop, hact, Bool.not_true, if_neg Bool.false_ne_true, iocpTimerStop]
  simp only [show (s.setActive false).timer.platformData = some d from hp, hstarted, Bool.not_true,
    Bool.false_eq_true, if_false]
  cases hdel : refused.filter (· != ERROR_IO_PENDING) with
  | some e =>
      have hno : deleted refused = false := by rw [deleted, hdel]; rfl
      refine ⟨{ w with api := .idle, onLoop := false }, ?_, ?_⟩
      · simp [stopSteps, hno, Machine.run, step, callStep, hidle, apiStep, htimer, hdata, hstarted,
          Caller.after]
      · exact ⟨rfl, h.timer.trans (by rw [hact]; rfl), h.data, h.queueTimer⟩
  | none =>
      have hyes : deleted refused = true := by rw [deleted, hdel]; rfl
      refine ⟨{ w with
        timer := some ⟨false, true⟩
        data := some { d with queueTimer := false, started := false }
        queueTimer := none, api := .idle, onLoop := false }, ?_, ?_⟩
      · simp [stopSteps, hyes, Machine.run, step, callStep, hidle, apiStep, wakeStep, hpool, htimer,
          hdata, hstarted, Caller.after]
      · exact ⟨rfl, rfl, fun _ hd => hd, rfl⟩

end Agreement

end Timer
end Iocp
end PollDancer
