/-
# `epoll_loop_run` and `kqueue_loop_run`

The two readiness backends wait in the kernel and dispatch the events they get.  They
differ in how they read an event: epoll finds the watcher in `data.ptr`, with a null
pointer for the eventfd; kqueue has one event for each filter of a watcher, sends
timers past the watchers, and re-arms a timer whose first period is over.  The
dispatch itself is `dispatchBatch`, and so is its safety (`loop_run_safe_iff`).
-/
import PollDancer.Dispatch
import PollDancer.Epoll.World
import PollDancer.Kqueue.Backend

namespace PollDancer

/-- What a loop function returns: the number of events or an error, and the trace of
the dispatch. -/
structure LoopResult (κ δ ω : Type) where
  world : World κ δ
  trace : List (Obs ω)
  result : Except PdError ℕ

/-- The part of the loop functions that the backends share: an interrupted wait is no
error, any other failure is; otherwise the events are dispatched.  `failed` is what the
backend does to its state when the wait fails. -/
def loopRun {κ δ ω ε errno : Type} [DecidableEq errno] (ops : PlatformOps κ δ ω)
    (d : Dispatcher κ ε) (eintr : errno) (failed : κ → errno → κ) (s : World κ δ)
    (wait : Except errno (List (ε × List (Call ω)))) : LoopResult κ δ ω :=
  match wait with
  | .error e =>
    if e = eintr then ⟨s, [], .ok 0⟩ else ⟨s.setSys (failed s.sys e), [], .error .system⟩
  | .ok batch =>
    let r := dispatchBatch ops d s batch
    ⟨r.1, r.2, .ok batch.length⟩

namespace Epoll

/-- How `epoll_loop_run` reads an event.  Draining the eventfd resets its counter, which
no watcher call looks at. -/
def epollDispatcher : Dispatcher EpollSys EpollEvent where
  decode e := if e.ptr = NULL then .skip else .watcher e.ptr (epollToEvents e.events)
  prepare k _ := k

/-- `epoll_loop_run`, with the result of `epoll_wait` and the calls of each callback. -/
def epollLoopRun (s : EpollWorld) (wait : Except Errno (List (EpollEvent × List (Call EpollEnv)))) :
    LoopResult EpollSys EpollWatcherData EpollEnv :=
  loopRun epollOps epollDispatcher .EINTR EpollSys.setError s wait

/-- The kernel may report the event: it is for a member, with events of its mask or
the errors that are always reported. -/
def MayReport (s : EpollWorld) (e : EpollEvent) : Prop :=
  ∃ fd m, s.sys.kernel.interest fd = some m ∧ m.ptr = e.ptr ∧
    e.events &&& (m.events ||| EPOLLERR ||| EPOLLHUP) = e.events

end Epoll

namespace Kqueue

/-- The `ident` of the wake-up event: the address of a static variable. -/
def pdAsyncIdent : ℤ := 1

/-- `EV_ERROR`. -/
def EV_ERROR : UInt16 := 0x4000
/-- `EV_EOF`. -/
def EV_EOF : UInt16 := 0x8000

/-- `struct kevent`, as the kernel reports it. -/
structure Kevent where
  ident : ℤ
  filter : Filter
  flags : UInt16
  udata : Addr
  deriving DecidableEq, Repr

/-- The poll-dancer events of a kqueue event. -/
def kqueueToEvents (e : Kevent) : PdEvent :=
  (if e.filter = .read then PdEvent.read else 0) |||
  (if e.filter = .write then PdEvent.write else 0) |||
  (if e.flags &&& EV_ERROR != 0 then PdEvent.error else 0) |||
  (if e.flags &&& EV_EOF != 0 then PdEvent.hangup else 0)

/-- A timer whose first, one-shot period is over is set up again to repeat.  The kernel may
refuse the filter, and the result is ignored. -/
def rearm (k : KqueueSys) (t : Addr) (refused : Bool) : KqueueSys :=
  match k.timers t with
  | none => k
  | some tm =>
    match tm.platformData with
    | none => k
    | some td =>
      if td.pendingInitial then
        let tm := { tm with platformData := some { td with pendingInitial := false } }
        { k with
          timers := Function.update k.timers t (some tm)
          kernel :=
            if refused then k.kernel
            else
              { k.kernel with
                timers := Function.update k.kernel.timers t (some ⟨false, tm.intervalMs⟩) } }
      else k

/-- How `kqueue_loop_run` reads an event.  The callback of a timer is never null:
`pd_timer_create` refuses that. -/
def kqueueDispatcher : Dispatcher KqueueSys Kevent where
  decode e :=
    if e.filter = .user ∧ e.ident = pdAsyncIdent then .skip
    else if e.filter = .timer then if e.udata = NULL then .skip else .timer e.udata
    else if e.udata = NULL then .skip
    else .watcher e.udata (kqueueToEvents e)
  prepare k e := if e.filter = .timer then rearm k e.udata false else k

/-- `kqueue_loop_run`, with the result of `kevent` and the calls of each callback. -/
def kqueueLoopRun (s : KqueueWorld)
    (wait : Except Errno (List (Kevent × List (Call KqueueEnv)))) :
    LoopResult KqueueSys KqueueWatcherData KqueueEnv :=
  loopRun kqueueOps kqueueDispatcher .EINTR KqueueSys.setError s wait

/-- The kernel may report the event: its filter is there and enabled. -/
def MayReport (s : KqueueWorld) (e : Kevent) : Prop :=
  ∃ n, s.sys.kernel.knotes e.ident e.filter = some n ∧ n.enabled = true ∧ n.udata = e.udata

end Kqueue

/-- **The loops of epoll and kqueue are safe exactly on the batches whose events the
callbacks leave undisturbed**: every event's watcher is live at the wait, no callback
of an earlier event destroys it, and if it has a callback, it is active after the
calls of the earlier callbacks. -/
theorem loop_run_safe_iff (s : Epoll.EpollWorld)
    (batch : List (Epoll.EpollEvent × List (Call Epoll.EpollEnv))) (t : Kqueue.KqueueWorld)
    (batch' : List (Kqueue.Kevent × List (Call Kqueue.KqueueEnv))) :
    (Safe s [] (Epoll.epollLoopRun s (.ok batch)).trace ↔
      Undisturbed Epoll.epollOps Epoll.epollDispatcher s batch) ∧
    (Safe t [] (Kqueue.kqueueLoopRun t (.ok batch')).trace ↔
      Undisturbed Kqueue.kqueueOps Kqueue.kqueueDispatcher t batch') :=
  ⟨dispatchBatch_safe_iff Epoll.epollOps Epoll.epollDispatcher s batch,
    dispatchBatch_safe_iff Kqueue.kqueueOps Kqueue.kqueueDispatcher t batch'⟩

/-- An epoll loop with watchers on the descriptors 5 and 6. -/
def epollPair : Epoll.EpollWorld :=
  Epoll.performAll (Epoll.epollLoopCreate 3 fun fd => fd == 5 || fd == 6)
    [Epoll.createAt 100 5, Epoll.createAt 200 6]

/-- A kqueue loop with one watcher for reading and writing. -/
def kqueueDuplex : Kqueue.KqueueWorld :=
  ((Kqueue.kqueueLoopCreate fun fd => fd == 5).exec Kqueue.kqueueOps
    (.create 5 (.read ||| .write) (some (.user 1)) NULL
      ⟨some 100, true, ⟨true, none, none, true⟩⟩)).1

/-- On epoll the callback of the first watcher destroys the second; on kqueue the
callback for the first of two events destroys its own watcher.  Both loops then read a
watcher that has been freed. -/
theorem not_loop_run_safe :
    (¬∀ (s : Epoll.EpollWorld) batch, Epoll.runs.Reachable s →
      (∀ p ∈ batch, Epoll.MayReport s p.1) → Safe s [] (Epoll.epollLoopRun s (.ok batch)).trace) ∧
    (¬∀ (s : Kqueue.KqueueWorld) batch, (calls Kqueue.kqueueOps).Reachable s →
      (∀ p ∈ batch, Kqueue.MayReport s p.1) →
      Safe s [] (Kqueue.kqueueLoopRun s (.ok batch)).trace) := by
  constructor
  · intro h
    have hr : Epoll.runs.Reachable epollPair :=
      Epoll.reach_performAll (.init ⟨3, _, rfl⟩) _ rfl
    have hsafe := h epollPair [(⟨Epoll.EPOLLIN, 100⟩, [.destroy 200]), (⟨Epoll.EPOLLIN, 200⟩, [])]
      hr ?_
    · exact absurd hsafe.2.2.2.1.2 (by decide)
    · intro p hp
      rcases List.mem_pair.1 hp with rfl | rfl
      · exact ⟨5, ⟨Epoll.EPOLLIN, 100⟩, by decide, rfl, by decide⟩
      · exact ⟨6, ⟨Epoll.EPOLLIN, 200⟩, by decide, rfl, by decide⟩
  · intro h
    have hr : (calls Kqueue.kqueueOps).Reachable kqueueDuplex :=
      .step (.init ⟨rfl, fun _ => rfl⟩) trivial rfl
    have hsafe := h kqueueDuplex [(⟨5, .read, 0, 100⟩, [.destroy 100]), (⟨5, .write, 0, 100⟩, [])]
      hr ?_
    · exact absurd hsafe.2.2.2.1.2 (by decide)
    · intro p hp
      rcases List.mem_pair.1 hp with rfl | rfl
      · exact ⟨⟨100, true, false⟩, by decide, rfl, rfl⟩
      · exact ⟨⟨100, true, false⟩, by decide, rfl, rfl⟩

end PollDancer
