/-
# Stopping a timer

After `pd_timer_stop` has returned `PD_OK` a timer should not call back before it is started
again, and then not for an expiration from before it was stopped.  No backend sees to that:
each deletes or disarms the timer in the kernel, and none looks for an expiration that the
loop has in its batch or in its queue, nor at `active` before it invokes the callback
(`not_stop_silences`).

When no expiration is on its way whenever `pd_timer_stop` returns `PD_OK`, timers keep to
their phases on the three backends: `stop_silences`.
-/
import PollDancer.Epoll.TimerEvents
import PollDancer.Iocp.TimerEvents
import PollDancer.Kqueue.TimerEvents

namespace PollDancer

open Library

/-- **A timer that has been stopped does not call back until it is started again, and then
only for expirations of the new start**, in runs in which `pd_timer_stop` returns `PD_OK`
only when no expiration of the timer is on its way to the loop. -/
theorem stop_silences {eventfd : ℤ} {t u : Addr} {e : TimerLoop Epoll.Watched × Alarm.Log ℕ}
    {k : TimerLoop Kqueue.Watched × Alarm.Log ℕ} {i : Iocp.Timer.State × Alarm.Log ℕ}
    (he : ((Epoll.epollTimers t).runs (Epoll.TimerCreated eventfd t)).Reach
      (Epoll.epollTimers t).Clear e)
    (hk : ((Kqueue.kqueueTimers u).runs (Kqueue.TimerCreated u)).Reach
      (Kqueue.kqueueTimers u).Clear k)
    (hi : Iocp.Timer.recordedRuns.Reach Iocp.Timer.Clear i) :
    e.2.Timely ∧ k.2.Timely ∧ i.2.Timely :=
  ⟨TimerBackend.timely_of_clear (Epoll.epollTimers_keeps eventfd t) (fun _ hc => hc.inv) he,
    TimerBackend.timely_of_clear (Kqueue.kqueueTimers_keeps u) (fun _ hc => hc.inv) hk,
    Iocp.Timer.timely_of_clear hi⟩

/-- A timer of 50 ms on an epoll loop. -/
def epollTimer : TimerLoop Epoll.Watched where
  sys :=
    ⟨(Epoll.pdTimerCreate (Epoll.epollLoopCreate 3 fun _ => false) 50 0 (some (.user 2)) NULL
      ⟨some 300, some 7, true, Epoll.granted 200⟩).1, none⟩
  batch := []
  starts := 0
  mode := .idle

/-- A timer of 50 ms on a kqueue loop. -/
def kqueueTimer : TimerLoop Kqueue.Watched where
  sys :=
    ⟨(Kqueue.pdTimerCreate (Kqueue.kqueueLoopCreate fun _ => false) 50 0 (some (.user 2)) NULL
      ⟨some 300, true, some 200, true⟩).1, none⟩
  batch := []
  starts := 0
  mode := .idle

theorem epollTimer_created : epollTimer.Created (Epoll.TimerCreated 3 300) :=
  ⟨⟨rfl, _, 50, 0, some (.user 2), NULL, ⟨some 300, some 7, true, Epoll.granted 200⟩,
    .init ⟨_, rfl⟩, Prod.ext rfl rfl⟩, nofun, rfl, rfl⟩

theorem kqueueTimer_created : kqueueTimer.Created (Kqueue.TimerCreated 300) :=
  ⟨⟨rfl, _, 50, 0, some (.user 2), NULL, ⟨some 300, true, some 200, true⟩, rfl,
    Prod.ext rfl rfl⟩, nofun, rfl, rfl⟩

/-- The calls on epoll are granted. -/
def grantedTimer : Epoll.TimerCallEnv := ⟨none, (Epoll.granted 200).backend⟩

/-- The timer is started and expires.  The callback of an event ahead of it in the batch
stops it. -/
def stopAhead {ε : Type} (env : ε) : List (TimerStep ε) :=
  [.start env, .expire, .enter, .report 1 (some 0), .next false, .stop env, .ret, .next false]

/-- The timer calls back once, stops itself, is started again, and calls back again. -/
def stopSelf {ε : Type} (env : ε) : List (TimerStep ε) :=
  [.start env, .expire, .enter, .report 1 (some 0), .next false, .ret, .next false, .stop env,
    .start env, .ret, .next false, .expire, .enter, .report 0 (some 2), .next false]

/-- The queue timer expires, and `iocp_timer_callback` posts its packet. -/
def packetPosted : List Iocp.Timer.Step := [.fire false, .pool true, .pool true, .pool true]

/-- The loop takes a packet of the timer, and invokes the callback. -/
def packetDispatched : List Iocp.Timer.Step := [.enter, .take 1, .next, .loop, .loop, .loop, .loop]

/-- `pd_timer_stop` on the loop thread. -/
def stopCall : List Iocp.Timer.Step :=
  [.stop true, .api true, .api true, .api true, .wake, .api true]

/-- On epoll and kqueue the callback of an event stops the timer whose event is behind it in
the batch, on IOCP the timer is stopped when its packet is in the port.  The callback is
invoked all the same. -/
theorem not_stop_silences :
    (¬∀ eventfd t s, ((Epoll.epollTimers t).runs (Epoll.TimerCreated eventfd t)).Reachable s →
      s.2.Timely) ∧
    (¬∀ t s, ((Kqueue.kqueueTimers t).runs (Kqueue.TimerCreated t)).Reachable s → s.2.Timely) ∧
    ¬∀ s, Iocp.Timer.recordedRuns.Reachable s → s.2.Timely := by
  refine ⟨fun h => ?_, fun h => ?_, fun h => ?_⟩
  · obtain ⟨s, hrun, hlate⟩ : ∃ s, Machine.run (Machine.recordStep (Epoll.epollTimers 300).step
        fun s l g => g.note ((Epoll.epollTimers 300).signal s l)) (epollTimer, Alarm.Log.empty)
        (stopAhead grantedTimer) = some s ∧ (.cancelled, 1) ∈ s.2.delivered :=
      ⟨_, rfl, by decide⟩
    exact nomatch h 3 300 s (Machine.Reach.run (.init ⟨epollTimer_created, rfl⟩) hrun) _ hlate
  · obtain ⟨s, hrun, hlate⟩ : ∃ s, Machine.run (Machine.recordStep (Kqueue.kqueueTimers 300).step
        fun s l g => g.note ((Kqueue.kqueueTimers 300).signal s l)) (kqueueTimer, Alarm.Log.empty)
        (stopAhead none) = some s ∧ (.cancelled, 1) ∈ s.2.delivered :=
      ⟨_, rfl, by decide⟩
    exact nomatch h 300 s (Machine.Reach.run (.init ⟨kqueueTimer_created, rfl⟩) hrun) _ hlate
  · obtain ⟨s, hrun, hlate⟩ : ∃ s, Machine.run (Machine.recordStep Iocp.Timer.step
        fun s l g => g.note (Iocp.Timer.signal s l)) (Iocp.Timer.created, Alarm.Log.empty)
        (.start true :: packetPosted ++ stopCall ++ packetDispatched) = some s ∧
          (.cancelled, 0) ∈ s.2.delivered :=
      ⟨_, rfl, by decide⟩
    exact nomatch h s (Machine.Reach.run (.init ⟨rfl, rfl⟩) hrun) _ hlate

/-- On each backend a timer calls back, stops itself, and calls back again when it has been
started again. -/
theorem stopSelf_silences :
    ∃ (e : TimerLoop Epoll.Watched × Alarm.Log ℕ) (k : TimerLoop Kqueue.Watched × Alarm.Log ℕ)
      (i : Iocp.Timer.State × Alarm.Log ℕ),
      e.2.delivered = [(.fresh, 1), (.set 2, 2)] ∧ k.2.delivered = [(.fresh, 1), (.set 2, 2)] ∧
        i.2.delivered = [(.fresh, 0), (.set 1, 1)] ∧
        e.2.Timely ∧ k.2.Timely ∧ i.2.Timely := by
  obtain ⟨e, hrune, he⟩ : ∃ s, Machine.runGuarded (Epoll.epollTimers 300).Clear
      (Machine.recordStep (Epoll.epollTimers 300).step
        fun s l g => g.note ((Epoll.epollTimers 300).signal s l)) (epollTimer, Alarm.Log.empty)
      (stopSelf grantedTimer) = some s ∧ s.2.delivered = [(.fresh, 1), (.set 2, 2)] :=
    ⟨_, rfl, rfl⟩
  obtain ⟨k, hrunk, hk⟩ : ∃ s, Machine.runGuarded (Kqueue.kqueueTimers 300).Clear
      (Machine.recordStep (Kqueue.kqueueTimers 300).step
        fun s l g => g.note ((Kqueue.kqueueTimers 300).signal s l)) (kqueueTimer, Alarm.Log.empty)
      (stopSelf none) = some s ∧ s.2.delivered = [(.fresh, 1), (.set 2, 2)] :=
    ⟨_, rfl, rfl⟩
  obtain ⟨i, hruni, hi⟩ : ∃ s, Machine.runGuarded Iocp.Timer.Clear
      (Machine.recordStep Iocp.Timer.step fun s l g => g.note (Iocp.Timer.signal s l))
      (Iocp.Timer.created, Alarm.Log.empty)
      (.start true :: packetPosted ++ packetDispatched ++ stopCall ++ [.start true, .ret, .next] ++
        packetPosted ++ packetDispatched) = some s ∧ s.2.delivered = [(.fresh, 0), (.set 1, 1)] :=
    ⟨_, rfl, rfl⟩
  exact ⟨e, k, i, he, hk, hi, stop_silences
    (Machine.Reach.runGuarded (.init ⟨epollTimer_created, rfl⟩) hrune)
    (Machine.Reach.runGuarded (.init ⟨kqueueTimer_created, rfl⟩) hrunk)
    (Machine.Reach.runGuarded (.init ⟨rfl, rfl⟩) hruni)⟩

end PollDancer
