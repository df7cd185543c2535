/-
# Timers on IOCP

`pd_timer_start`, `pd_timer_stop` and `pd_timer_destroy` of `src/timer.c` with the timer
operations of `src/platform/iocp.c`, beside `iocp_timer_callback` on the thread of the
timer queue and the timer branch of `iocp_loop_run`, one access to shared memory at a
time.

One timer is followed, with its `pd_iocp_timer_data_t`.  The calls on it are made one
after the other, on the loop thread or on another.  An expiration runs
`iocp_timer_callback`, which posts a packet that points to the timer; the loop invokes the
callback of the user when it comes to the packet.  The callbacks of a timer queue run one
after the other on its thread (`WT_EXECUTEINTIMERTHREAD`).

Every successful start makes a queue timer of its own; an expiration and its packet carry
the number of the one they come from, which the code does not have.  Reading the timer or
its data after it has been freed has no successor.
-/
import PollDancer.Library.Machine
import PollDancer.Library.Port
import PollDancer.Types

namespace PollDancer
namespace Iocp
namespace Timer

open Library

/-- What is left of `pd_timer_t` here: `active`, and whether `platform_data` points to the
data. -/
structure TimerFields where
  active : Bool
  platformData : Bool
  deriving DecidableEq, Repr

/-- `pd_iocp_timer_data_t`: `queueTimer` tells whether `queue_timer` is not `NULL`.  The
handle of the port and the stop event stay the same. -/
structure IocpTimerData where
  queueTimer : Bool
  started : Bool
  destroyed : Bool
  deriving DecidableEq, Repr

/-- A packet of the port, as far as the timer is concerned. -/
inductive Packet
  /-- `PD_IOCP_TIMER_KEY`, posted for an expiration of the `n`-th queue timer. -/
  | timer (n : ℕ)
  /-- The packet of `iocp_drain_sync`. -/
  | drain
  | other
  deriving DecidableEq, Repr

/-- Where `iocp_timer_callback` is. -/
inductive PoolPc
  /-- Before `timer->platform_data` is read. -/
  | readTimer
  /-- Before `timer_data->destroyed` is read. -/
  | readDestroyed
  /-- Before the packet is posted to `timer_data->iocp_handle`. -/
  | post
  deriving DecidableEq, Repr

/-- Where the loop thread is. -/
inductive LoopPc
  /-- Outside `iocp_loop_run`. -/
  | idle
  /-- In `GetQueuedCompletionStatusEx`. -/
  | waiting
  /-- At the head of the `for` over the batch. -/
  | dispatch
  /-- In a callback of something else. -/
  | other
  /-- Before `timer->callback` is read. -/
  | readCallback (n : ℕ)
  /-- Before `timer->platform_data` is read. -/
  | readData (n : ℕ)
  | readDestroyed (n : ℕ)
  /-- Before the callback is invoked. -/
  | start (n : ℕ)
  /-- In the callback of the timer. -/
  | callback
  deriving DecidableEq, Repr

/-- The callers of `pd_timer_stop`. -/
inductive Caller
  | user
  | destroy
  deriving DecidableEq, Repr

/-- Where a call on the timer is. -/
inductive ApiPc
  /-- No call is going on. -/
  | idle
  /-- In `pd_timer_stop`, before `active` is read. -/
  | stop (c : Caller)
  /-- In `iocp_timer_stop`, before `started` is read. -/
  | checkStarted (c : Caller)
  | deleteTimer (c : Caller)
  /-- In the wait for the stop event. -/
  | waitStop (c : Caller)
  /-- Before `queue_timer` and `started` are reset. -/
  | clearTimer (c : Caller)
  /-- Before `active` is set again. -/
  | restore (c : Caller)
  /-- In `pd_timer_destroy`, before `active` is read. -/
  | destroy
  /-- In `iocp_timer_destroy`, before `destroyed` is set. -/
  | mark
  | checkDelete
  /-- Before `DeleteTimerQueueTimer` with `INVALID_HANDLE_VALUE`. -/
  | deleteAndWait
  /-- In this `DeleteTimerQueueTimer`. -/
  | waitCallback
  | clearDelete
  | closeStopEvent
  /-- In `iocp_drain_sync`, before `CreateEvent`. -/
  | createEvent
  | postSync
  | waitEvent
  /-- Back from `iocp_drain_sync`, which has drained. -/
  | freeData
  | clearData
  | freeWatcher (drained : Bool)
  /-- Back from `iocp_timer_destroy`. -/
  | freeTimer (drained : Bool)
  | destroyed
  deriving DecidableEq, Repr

/-- What the threads share, and where they are.  A freed object is `none`. -/
structure State where
  timer : Option TimerFields
  data : Option IocpTimerData
  /-- How many queue timers have been made. -/
  made : ℕ
  /-- The queue timer that may expire. -/
  queueTimer : Option ℕ
  /-- The expiration whose `iocp_timer_callback` is running. -/
  pool : Option (ℕ × PoolPc)
  port : Port Packet
  /-- Is the event of the drain set? -/
  signalled : Bool
  loop : LoopPc
  api : ApiPc
  /-- Is the call made on the loop thread? -/
  onLoop : Bool
  deriving DecidableEq

/-- Is user code running on the loop thread? -/
def LoopPc.userRuns : LoopPc → Bool
  | .idle => true
  | .other => true
  | .callback => true
  | _ => false

/-- Is the loop thread held up by a call that it makes? -/
def State.busy (s : State) : Bool := s.onLoop && s.api != .idle && s.api != .destroyed

/-- `pd_timer_start`.  `ok` is the answer of `CreateTimerQueueTimer`. -/
def startStep (s : State) (ok : Bool) : Option State := do
  let t ← s.timer
  if t.active then some s
  else if !t.platformData then some s
  else do
    let d ← s.data
    if ok then
      some { s with
        timer := some { t with active := true }
        data := some { d with queueTimer := true, started := true }
        made := s.made + 1
        queueTimer := some s.made }
    else some s

/-- `pd_timer_stop` returns to its caller. -/
def Caller.after : Caller → ApiPc
  | .user => .idle
  | .destroy => .mark

/-- One access of `pd_timer_stop`, or of `pd_timer_destroy`.  `ok` is the answer of the
environment. -/
def apiStep (s : State) (ok : Bool) : Option State :=
  match s.api with
  | .stop c => do
      let t ← s.timer
      if t.active then
        some { s with timer := some { t with active := false }, api := .checkStarted c }
      else some { s with api := c.after }
  | .checkStarted c => do
      let t ← s.timer
      if !t.platformData then some { s with api := c.after }
      else do
        let d ← s.data
        some { s with api := if d.started then .deleteTimer c else c.after }
  | .deleteTimer c => do
      let _ ← s.data
      if ok then some { s with queueTimer := none, api := .waitStop c }
      else some { s with api := .restore c }
  | .clearTimer c => do
      let d ← s.data
      some { s with
        data := some { d with queueTimer := false, started := false }
        api := c.after }
  | .restore c => do
      let t ← s.timer
      some { s with timer := some { t with active := true }, api := c.after }
  | .destroy => do
      let t ← s.timer
      some { s with api := if t.active then .stop .destroy else .mark }
  | .mark => do
      let t ← s.timer
      if !t.platformData then some { s with api := .createEvent }
      else do
        let d ← s.data
        some { s with data := some { d with destroyed := true }, api := .checkDelete }
  | .checkDelete => do
      let d ← s.data
      some { s with api := if d.started && d.queueTimer then .deleteAndWait else .closeStopEvent }
  | .deleteAndWait => do
      let _ ← s.data
      -- the answer is not looked at; a refused call does not wait
      if ok then some { s with queueTimer := none, api := .waitCallback }
      else some { s with api := .clearDelete }
  | .clearDelete => do
      let d ← s.data
      some { s with
        data := some { d with queueTimer := false, started := false }
        api := .closeStopEvent }
  | .closeStopEvent => do
      let _ ← s.data
      some { s with api := .createEvent }
  | .createEvent => do
      let _ ← s.timer
      if ok then some { s with signalled := false, api := .postSync }
      else some { s with api := .freeWatcher false }
  | .postSync =>
      some { s with port := if ok then s.port.post .drain else s.port, api := .waitEvent }
  | .freeData => do
      let t ← s.timer
      some { s with data := if t.platformData then none else s.data, api := .clearData }
  | .clearData => do
      let t ← s.timer
      some { s with timer := some { t with platformData := false }, api := .freeWatcher true }
  | .freeWatcher drained => do
      let _ ← s.timer
      some { s with api := .freeTimer drained }
  | .freeTimer drained =>
      some { s with timer := if drained then none else s.timer, api := .destroyed }
  | _ => none

/-- A wait of the call ends with what it waits for.  The stop event is signalled, and the
waiting `DeleteTimerQueueTimer` returns, only when no `iocp_timer_callback` is running. -/
def wakeStep (s : State) : Option State :=
  match s.api with
  | .waitStop c => if s.pool = none then some { s with api := .clearTimer c } else none
  | .waitCallback => if s.pool = none then some { s with api := .clearDelete } else none
  | .waitEvent => if s.signalled then some { s with api := .freeData } else none
  | _ => none

/-- The five seconds of a wait are over. -/
def expireStep (s : State) : Option State :=
  match s.api with
  | .waitStop c => some { s with api := .clearTimer c }
  | .waitEvent => some { s with api := .freeWatcher false }
  | _ => none

/-- The queue timer expires, and will again if it is periodic. -/
def fireStep (s : State) (again : Bool) : Option State := do
  let n ← s.queueTimer
  if s.pool = none then
    some { s with
      pool := some (n, .readTimer)
      queueTimer := if again then some n else none }
  else none

/-- One access of `iocp_timer_callback`.  The packet may be refused. -/
def poolStep (s : State) (ok : Bool) : Option State := do
  let (n, pc) ← s.pool
  match pc with
  | .readTimer => do
      let t ← s.timer
      some { s with pool := if t.platformData then some (n, .readDestroyed) else none }
  | .readDestroyed => do
      let d ← s.data
      some { s with pool := if d.destroyed then none else some (n, .post) }
  | .post => do
      let _ ← s.data
      some { s with port := if ok then s.port.post (.timer n) else s.port, pool := none }

/-- One access of the loop thread in its timer branch. -/
def loopStep (s : State) : Option State :=
  match s.loop with
  | .readCallback n => do
      let _ ← s.timer
      some { s with loop := .readData n }
  | .readData n => do
      let t ← s.timer
      some { s with loop := if t.platformData then .readDestroyed n else .dispatch }
  | .readDestroyed n => do
      let d ← s.data
      some { s with loop := if d.destroyed then .dispatch else .start n }
  | .start _ => do
      let _ ← s.timer
      some { s with loop := .callback }
  | _ => none

/-- The loop turns to the next packet of its batch. -/
def loopNext (s : State) : Option State :=
  if s.loop = .dispatch then
    match s.port.next with
    | none => some { s with loop := .idle }
    | some (.timer n, port) => some { s with port, loop := .readCallback n }
    | some (.drain, port) => some { s with port, signalled := true }
    | some (.other, port) => some { s with port, loop := .other }
  else none

/-- The steps of the calls, of the timer queue and of the loop thread. -/
inductive Step
  /-- `pd_timer_start` is called, and returns. -/
  | start (ok : Bool)
  /-- `pd_timer_stop` is called. -/
  | stop (onLoop : Bool)
  /-- `pd_timer_destroy` is called. -/
  | destroy (onLoop : Bool)
  | api (ok : Bool)
  | wake
  | expire
  | fire (again : Bool)
  | pool (ok : Bool)
  /-- The loop thread calls `iocp_loop_run`. -/
  | enter
  /-- `GetQueuedCompletionStatusEx` returns `k` packets. -/
  | take (k : ℕ)
  | next
  | loop
  /-- The running callback returns. -/
  | ret
  /-- A packet of something else. -/
  | post
  deriving DecidableEq, Repr

/-- A call on the timer begins. -/
def callStep (s : State) (pc : ApiPc) (onLoop : Bool) : Option State :=
  if s.api = .idle ∧ (onLoop → s.loop.userRuns) then some { s with api := pc, onLoop } else none

/-- The state after a step, `none` where the step cannot be taken. -/
def step (s : State) : Step → Option State
  | .start ok => if s.api = .idle then startStep s ok else none
  | .stop onLoop => callStep s (.stop .user) onLoop
  | .destroy onLoop => callStep s .destroy onLoop
  | .api ok => apiStep s ok
  | .wake => wakeStep s
  | .expire => expireStep s
  | .fire again => fireStep s again
  | .pool ok => poolStep s ok
  | .enter => if s.loop = .idle ∧ s.busy = false then some { s with loop := .waiting } else none
  | .take k =>
      if s.loop = .waiting ∧ 0 < k ∧ k ≤ s.port.queue.length then
        some { s with port := s.port.take k, loop := .dispatch }
      else none
  | .next => loopNext s
  | .loop => loopStep s
  | .ret =>
      if (s.loop = .other ∨ s.loop = .callback) ∧ s.busy = false then
        some { s with loop := .dispatch }
      else none
  | .post => some { s with port := s.port.post .other }

/-- A timer that has just been created. -/
def created : State where
  timer := some ⟨false, true⟩
  data := some ⟨false, false, false⟩
  made := 0
  queueTimer := none
  pool := none
  port := .empty
  signalled := false
  loop := .idle
  api := .idle
  onLoop := false

/-- The runs of the calls on the timer, the timer queue and the loop thread. -/
def timerRuns : Machine State Step := Machine.ofFun (· = created) step

end Timer
end Iocp
end PollDancer
