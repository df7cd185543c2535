/-
# An active timer is set

`active` is changed by `pd_timer_start` and `pd_timer_stop` only, and a timer that is active
is not set anew.  Nobody clears it when a one-shot timer expires.  On epoll and IOCP a
one-shot timer therefore stays active for good, and `pd_timer_start` returns `PD_OK` without
setting it (`not_active_truthful`).  On kqueue it repeats.

`active_truthful` is about the runs in which timers repeat, no start or stop fails half way,
and no timer is stopped when its expiration is on its way to the loop.
-/
import PollDancer.Epoll.TimerArmed
import PollDancer.Iocp.TimerArmed
import PollDancer.Kqueue.TimerArmed
import PollDancer.TimerStop

namespace PollDancer

open Library TimerBackend

/-- **A timer is active exactly while an expiration is to come or on its way, and a start
that returns `PD_OK` leaves it set**, in sustained runs. -/
theorem active_truthful {eventfd : ℤ} {t u : Addr} {e : TimerLoop Epoll.Watched}
    {k : TimerLoop Kqueue.Watched} {i : Iocp.Timer.State}
    (he : (Machine.ofFun (TimerLoop.Created (Epoll.TimerCreated eventfd t))
      (Epoll.epollTimers t).step).Reach (Epoll.timerGauge t).Sustained e)
    (hk : (Machine.ofFun (TimerLoop.Created (Kqueue.TimerCreated u))
      (Kqueue.kqueueTimers u).step).Reach (Kqueue.timerGauge u).Sustained k)
    (hi : Iocp.Timer.timerRuns.Reach Iocp.Timer.Sustained i) :
    ((Epoll.timerGauge t).Truthful e ∧ (Epoll.timerGauge t).Starts (Epoll.epollTimers t) e) ∧
      ((Kqueue.timerGauge u).Truthful k ∧
        (Kqueue.timerGauge u).Starts (Kqueue.kqueueTimers u) k) ∧
      Iocp.Timer.Truthful i ∧ Iocp.Timer.Starts i :=
  ⟨Gauge.truthful_of_reach (Epoll.timerGauge_fits eventfd t) (fun _ hc => hc.armed) he,
    Gauge.truthful_of_reach (Kqueue.timerGauge_fits u) (fun _ hc => hc.armed) hk,
    Iocp.Timer.truthful_of_reach hi⟩

/-- A timer of 50 ms that repeats every 20 ms, on an epoll loop. -/
def epollTicker : TimerLoop Epoll.Watched where
  sys :=
    ⟨(Epoll.pdTimerCreate (Epoll.epollLoopCreate 3 fun _ => false) 50 20 (some (.user 2)) NULL
      ⟨some 300, some 7, true, Epoll.granted 200⟩).1, none⟩
  batch := []
  starts := 0
  mode := .idle

/-- A timer of 50 ms that repeats every 20 ms, on a kqueue loop. -/
def kqueueTicker : TimerLoop Kqueue.Watched where
  sys :=
    ⟨(Kqueue.pdTimerCreate (Kqueue.kqueueLoopCreate fun _ => false) 50 20 (some (.user 2)) NULL
      ⟨some 300, true, some 200, true⟩).1, none⟩
  batch := []
  starts := 0
  mode := .idle

theorem epollTicker_created : epollTicker.Created (Epoll.TimerCreated 3 300) :=
  ⟨⟨rfl, _, 50, 20, some (.user 2), NULL, ⟨some 300, some 7, true, Epoll.granted 200⟩,
    .init ⟨_, rfl⟩, Prod.ext rfl rfl⟩, nofun, rfl, rfl⟩

theorem kqueueTicker_created : kqueueTicker.Created (Kqueue.TimerCreated 300) :=
  ⟨⟨rfl, _, 50, 20, some (.user 2), NULL, ⟨some 300, true, some 200, true⟩, rfl,
    Prod.ext rfl rfl⟩, nofun, rfl, rfl⟩

/-- The timer is started, expires, and calls back. -/
def tick {ε : Type} (env : ε) : List (TimerStep ε) :=
  [.start env, .expire, .enter, .report 0 (some 0), .next false, .ret, .next false]

/-- The queue timer expires and stays set, and `iocp_timer_callback` posts its packet. -/
def periodPosted : List Iocp.Timer.Step := [.fire true, .pool true, .pool true, .pool true]

/-- On epoll and IOCP a one-shot timer that has called back is active, and nothing of it is
set or on its way; a start returns `PD_OK`, and sets nothing. -/
theorem not_active_truthful :
    (¬∀ eventfd t s, (Machine.ofFun (TimerLoop.Created (Epoll.TimerCreated eventfd t))
      (Epoll.epollTimers t).step).Reachable s → (Epoll.timerGauge t).Truthful s) ∧
    (¬∀ eventfd t s, (Machine.ofFun (TimerLoop.Created (Epoll.TimerCreated eventfd t))
      (Epoll.epollTimers t).step).Reachable s →
        (Epoll.timerGauge t).Starts (Epoll.epollTimers t) s) ∧
    ¬∀ s, Iocp.Timer.timerRuns.Reachable s → Iocp.Timer.Starts s := by
  obtain ⟨s, hrun, hact, harmed, hpending, hbatch, s', hnext, hok, harmed'⟩ :
      ∃ s, Machine.run (Epoll.epollTimers 300).step epollTimer (tick grantedTimer) = some s ∧
        (Epoll.timerGauge 300).active s.sys = true ∧
        (Epoll.timerGauge 300).armed s.sys = false ∧ s.sys.ticks = none ∧ s.batch = [] ∧
        ∃ s', (Epoll.epollTimers 300).step s (.start grantedTimer) = some s' ∧
          ((Epoll.epollTimers 300).start s.sys grantedTimer).2 = .ok ∧
          (Epoll.timerGauge 300).armed s'.sys = false :=
    ⟨_, rfl, rfl, rfl, rfl, rfl, _, rfl, rfl, rfl⟩
  have hr : (Machine.ofFun (TimerLoop.Created (Epoll.TimerCreated 3 300))
      (Epoll.epollTimers 300).step).Reachable s :=
    Machine.Reach.run (.init epollTimer_created) hrun
  refine ⟨fun h => ?_, fun h => ?_, fun h => ?_⟩
  · rcases (h 3 300 s hr).1 hact with hyes | ⟨n, hn⟩ | ⟨n, hn⟩
    · exact nomatch harmed.symm.trans hyes
    · exact nomatch hpending.symm.trans hn
    · rw [hbatch] at hn
      exact absurd hn List.not_mem_nil
  · refine nomatch harmed'.symm.trans (h 3 300 s hr _ s' ⟨?_, nofun⟩ hnext hok)
    simp [Epoll.timerGauge, show Epoll.active s.sys.world 300 = true from hact]
  · obtain ⟨i, hrun, i', hnext, hok, hnone⟩ :
        ∃ i, Machine.run Iocp.Timer.step Iocp.Timer.created
          (.start true :: packetPosted ++ packetDispatched) = some i ∧
          ∃ i', Iocp.Timer.step i (.start true) = some i' ∧
            Iocp.Timer.startCode i true = .ok ∧ i'.queueTimer.isSome = false :=
      ⟨_, rfl, _, rfl, rfl, rfl⟩
    exact nomatch hnone.symm.trans
      (h i (Machine.Reach.run (.init rfl) hrun) true i' hnext hok)

/-- On each backend a timer that repeats is active when it has called back, and is set. -/
theorem ticker_truthful :
    ∃ (e : TimerLoop Epoll.Watched) (k : TimerLoop Kqueue.Watched) (i : Iocp.Timer.State),
      ((Epoll.timerGauge 300).armed e.sys = true ∧ (Kqueue.timerGauge 300).armed k.sys = true ∧
        i.queueTimer = some 0) ∧
      ((Epoll.timerGauge 300).Truthful e ∧
        (Epoll.timerGauge 300).Starts (Epoll.epollTimers 300) e) ∧
      ((Kqueue.timerGauge 300).Truthful k ∧
        (Kqueue.timerGauge 300).Starts (Kqueue.kqueueTimers 300) k) ∧
      Iocp.Timer.Truthful i ∧ Iocp.Timer.Starts i := by
  obtain ⟨e, hrune, he⟩ : ∃ s, Machine.runGuarded (Epoll.timerGauge 300).Sustained
      (Epoll.epollTimers 300).step epollTicker (tick grantedTimer) = some s ∧
        (Epoll.timerGauge 300).armed s.sys = true :=
    ⟨_, rfl, rfl⟩
  obtain ⟨k, hrunk, hk⟩ : ∃ s, Machine.runGuarded (Kqueue.timerGauge 300).Sustained
      (Kqueue.kqueueTimers 300).step kqueueTicker (tick none) = some s ∧
        (Kqueue.timerGauge 300).armed s.sys = true :=
    ⟨_, rfl, rfl⟩
  obtain ⟨i, hruni, hi⟩ : ∃ s, Machine.runGuarded Iocp.Timer.Sustained Iocp.Timer.step
      Iocp.Timer.created (.start true :: periodPosted ++ packetDispatched) = some s ∧
        s.queueTimer = some 0 :=
    ⟨_, rfl, rfl⟩
  exact ⟨e, k, i, ⟨he, hk, hi⟩, active_truthful
    (Machine.Reach.runGuarded (.init epollTicker_created) hrune)
    (Machine.Reach.runGuarded (.init kqueueTicker_created) hrunk)
    (Machine.Reach.runGuarded (.init rfl) hruni)⟩

end PollDancer
