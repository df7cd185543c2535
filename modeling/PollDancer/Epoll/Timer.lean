/-
# Timers on epoll

`pd_timer_create`, `pd_timer_start`, `pd_timer_stop` and `pd_timer_destroy` of
`src/timer.c` with the timer operations of `src/platform/epoll.c`.

A timer is a timerfd and an internal watcher on it.  The watcher is created with the
timer and stopped at once, started and stopped with the timer, and destroyed before
the timerfd is closed, so that its `EPOLL_CTL_DEL` meets an open descriptor.
-/
import PollDancer.Epoll.World

namespace PollDancer
namespace Epoll

/-- The answers of the environment to `pd_timer_create`: the address of the timer,
the number of the timerfd, memory for the timer's platform data, and what the
creation of the internal watcher asks for. -/
structure TimerEnv where
  calloc : Option Addr
  timerfd : Option ℤ
  dataAlloc : Bool
  watcher : CallEnv EpollEnv
  deriving DecidableEq

/-- The timer structure at `t` is allocated, overwritten or freed. -/
def setTimer (s : EpollWorld) (t : Addr) (tm : Option (PdTimer ℤ)) : EpollWorld :=
  s.setSys { s.sys with timers := Function.update s.sys.timers t tm }

@[simp]
theorem setTimer_timers_self (s : EpollWorld) (t : Addr) (tm : Option (PdTimer ℤ)) :
    (setTimer s t tm).sys.timers t = tm :=
  Function.update_self ..

theorem setTimer_timers_ne (s : EpollWorld) {t t' : Addr} (tm : Option (PdTimer ℤ))
    (h : t' ≠ t) : (setTimer s t tm).sys.timers t' = s.sys.timers t' :=
  Function.update_of_ne h ..

/-- The kernel is replaced. -/
def setKernel (s : EpollWorld) (kernel : Kernel) : EpollWorld := s.setSys { s.sys with kernel }

/-- `calloc` of a timer. -/
def callocTimer (s : EpollWorld) (p : Option Addr) : Option Addr :=
  p.filter fun t => t ≠ NULL ∧ (s.sys.timers t).isNone

/-- `timerfd_create`: it fails, or returns a number that was not in use. -/
def timerfdCreate (s : EpollWorld) (fd : Option ℤ) : Option ℤ :=
  fd.filter fun fd => 0 ≤ fd ∧ s.sys.kernel.isOpen fd = false

/-- `epoll_timer_create`.  The timer structure is in the heap only once
`pd_timer_create` has kept it. -/
def epollTimerCreate (s : EpollWorld) (t : Addr) (tm : PdTimer ℤ) (env : TimerEnv) :
    EpollWorld × PdTimer ℤ × PdError :=
  match timerfdCreate s env.timerfd with
  | none => (s.setSys (s.sys.setError .EMFILE), tm, .system)
  | some timerfd =>
    let s := openFd s timerfd
    if !env.dataAlloc then (closeFd s timerfd, tm, .noMemory)
    else
      let r := pdWatcherCreate epollOps s timerfd .read (some .timerfd) t env.watcher
      match r.2 with
      | none => (closeFd r.1 timerfd, { tm with watcher := none, platformData := none }, .system)
      | some w =>
        -- stopped at once: it is started when the timer starts
        ((pdWatcherStop epollOps r.1 w).1,
          { tm with watcher := some w, ownsWatcher := true, platformData := some timerfd }, .ok)

/-- `pd_timer_create`. -/
def pdTimerCreate (s : EpollWorld) (timeoutMs intervalMs : UInt64) (callback : Option Callback)
    (userData : Addr) (env : TimerEnv) : EpollWorld × Option Addr :=
  match callback with
  | none => (s, none)
  | some callback =>
    match callocTimer s env.calloc with
    | none => (s, none)
    | some t =>
      let r := epollTimerCreate s t
        { watcher := none, timeoutMs, intervalMs, callback, userData, active := false,
          ownsWatcher := false, platformData := none } env
      if r.2.2 ≠ .ok then (r.1, none) else (setTimer r.1 t (some r.2.1), some t)

/-- The `itimerspec` of `epoll_timer_start`.  A zero timeout becomes one nanosecond,
because a zero `it_value` would disarm the timer. -/
def timerSpec (tm : PdTimer ℤ) : Itimerspec where
  valueSec := if tm.timeoutMs > 0 then (tm.timeoutMs / 1000).toNat else 0
  valueNsec := if tm.timeoutMs > 0 then ((tm.timeoutMs % 1000) * 1000000).toNat else 1
  intervalSec := if tm.intervalMs > 0 then (tm.intervalMs / 1000).toNat else 0
  intervalNsec := if tm.intervalMs > 0 then ((tm.intervalMs % 1000) * 1000000).toNat else 0

/-- `timerfd_settime`, which the kernel may refuse. -/
def timerfdSettime (s : EpollWorld) (timerfd : ℤ) (its : Itimerspec) (refused : Option Errno) :
    Except Errno EpollWorld :=
  match refused with
  | some e => .error e
  | none =>
    if s.sys.kernel.isOpen timerfd then .ok (setKernel s (s.sys.kernel.settime timerfd its))
    else .error .EBADF

/-- `epoll_timer_start`.  `timer->platform_data` is set for every timer that
`pd_timer_create` returns. -/
def epollTimerStart (s : EpollWorld) (tm : PdTimer ℤ) (refused : Option Errno) (env : EpollEnv) :
    EpollWorld × PdError :=
  let timerfd := tm.platformData.getD (-1)
  if timerfd < 0 then (s, .system)
  else match timerfdSettime s timerfd (timerSpec tm) refused with
    | .error e => (s.setSys (s.sys.setError e), .system)
    | .ok s =>
      match tm.watcher with
      | none => (s, .ok)
      | some w => pdWatcherStart epollOps s w env

/-- `epoll_timer_stop`. -/
def epollTimerStop (s : EpollWorld) (tm : PdTimer ℤ) (refused : Option Errno) :
    EpollWorld × PdError :=
  let timerfd := tm.platformData.getD (-1)
  if timerfd < 0 then (s, .system)
  else match timerfdSettime s timerfd ⟨0, 0, 0, 0⟩ refused with
    | .error e => (s.setSys (s.sys.setError e), .system)
    | .ok s =>
      match tm.watcher with
      | none => (s, .ok)
      | some w => pdWatcherStop epollOps s w

/-- `epoll_timer_destroy`: the timerfd is closed. -/
def epollTimerDestroy (s : EpollWorld) (tm : PdTimer ℤ) : EpollWorld :=
  match tm.platformData with
  | none => s
  | some timerfd => if timerfd ≥ 0 then closeFd s timerfd else s

/-- `pd_timer_start`. -/
def pdTimerStart (s : EpollWorld) (t : Addr) (refused : Option Errno) (env : EpollEnv) :
    EpollWorld × PdError :=
  match s.sys.timers t with
  | none => (s, .invalidArg)
  | some tm =>
    if tm.active then (s, .ok)
    else
      let tm := { tm with active := true }
      let r := epollTimerStart (setTimer s t (some tm)) tm refused env
      if r.2 ≠ .ok then (setTimer r.1 t (some { tm with active := false }), r.2) else (r.1, .ok)

/-- `pd_timer_stop`. -/
def pdTimerStop (s : EpollWorld) (t : Addr) (refused : Option Errno) : EpollWorld × PdError :=
  match s.sys.timers t with
  | none => (s, .invalidArg)
  | some tm =>
    if !tm.active then (s, .ok)
    else
      let tm := { tm with active := false }
      let r := epollTimerStop (setTimer s t (some tm)) tm refused
      if r.2 ≠ .ok then (setTimer r.1 t (some { tm with active := true }), r.2) else (r.1, .ok)

/-- `pd_timer_destroy`: stop the timer, destroy its watcher, close the timerfd, free
the structure. -/
def pdTimerDestroy (s : EpollWorld) (t : Addr) (refused : Option Errno) : EpollWorld :=
  match s.sys.timers t with
  | none => s
  | some tm =>
    let s := if tm.active then (pdTimerStop s t refused).1 else s
    let s :=
      match tm.watcher with
      | some w => if tm.ownsWatcher then pdWatcherDestroy epollOps s w else s
      | none => s
    setTimer (epollTimerDestroy s tm) t none

/-! ### Runs with timers -/

/-- What can happen to an epoll loop with timers. -/
inductive TimerAction
  | watcher (c : Call EpollEnv)
  | timerCreate (timeoutMs intervalMs : UInt64) (callback : Option Callback) (userData : Addr)
      (env : TimerEnv)
  | timerStart (t : Addr) (refused : Option Errno) (env : EpollEnv)
  | timerStop (t : Addr) (refused : Option Errno)
  | timerDestroy (t : Addr) (refused : Option Errno)
  | closeFd (fd : ℤ)
  | openFd (fd : ℤ)
  deriving DecidableEq

/-- The state after an action. -/
def performTimer (s : EpollWorld) : TimerAction → EpollWorld
  | .watcher c => (s.exec epollOps c).1
  | .timerCreate timeoutMs intervalMs callback userData env =>
      (pdTimerCreate s timeoutMs intervalMs callback userData env).1
  | .timerStart t refused env => (pdTimerStart s t refused env).1
  | .timerStop t refused => (pdTimerStop s t refused).1
  | .timerDestroy t refused => pdTimerDestroy s t refused
  | .closeFd fd => closeFd s fd
  | .openFd fd => openFd s fd

/-- The runs of an epoll loop with timers, whose eventfd is `eventfd`. -/
def timerRuns (eventfd : ℤ) : Library.Machine EpollWorld TimerAction :=
  Library.Machine.ofFun (fun s => ∃ isOpen, s = epollLoopCreate eventfd isOpen)
    fun s act => some (performTimer s act)

end Epoll
end PollDancer
