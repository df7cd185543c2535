/-
# Epoll and kqueue, told the same

A program that keeps to the rules of both cannot tell the two readiness backends apart by
their replies: when an epoll loop and a kqueue loop have given the same replies to the same
calls, in runs that are `Tame` there, whatever memory and kernel have granted or refused on
the way and with any timers, their users have asked for the same, and the two kernels wait for
the same events (`backends_agree`).

What is left to compare are the replies themselves.
-/
import PollDancer.Epoll.Masks
import PollDancer.Epoll.Readiness
import PollDancer.Kqueue.Readiness

namespace PollDancer

open Library

namespace Epoll

/-- The kernel waits for an event of the descriptor on behalf of the user's watcher `a`. -/
def WaitsFor (s : EpollWorld) (fd : ℤ) (a : Addr) (bit : UInt32) (edge : Bool) : Prop :=
  a ∉ hidden s ∧ ∃ m, s.sys.kernel.interest fd = some m ∧ m.ptr = a ∧ m.events &&& bit ≠ 0 ∧
    (m.events &&& EPOLLET != 0) = edge

variable {eventfd : ℤ} {s : EpollWorld} {fd : ℤ} {a : Addr} {edge : Bool}

/-- What the kernel waits for is what is asked for. -/
theorem Sound.waitsFor_iff (h : Sound eventfd s) (ha : a ≠ NULL) {bit : PdEvent} {b : UInt32}
    (hbit : ∀ events, eventsToEpoll events &&& b ≠ 0 ↔ events.has bit = true) :
    WaitsFor s fd a b edge ↔ AskedFor (asked s) fd a bit edge := by
  have hedge : ∀ events, (eventsToEpoll events &&& EPOLLET != 0) = events.has .edge := by
    intro events
    rw [Bool.eq_iff_iff, bne_iff_ne]
    exact (eventsToEpoll_bits events).2.2.2.2.2
  constructor
  · rintro ⟨hseen, m, hm, rfl, hb, he⟩
    obtain ⟨i, hi, hact, hfd, hmask⟩ := h.asked_of_interest hm ha hseen
    rw [hmask] at hb he
    exact ⟨i, hi, hact, hfd, (hbit _).1 hb, (hedge _).symm.trans he⟩
  · rintro ⟨i, hi, hact, rfl, hb, he⟩
    exact ⟨(seen_eq_some.1 hi).1, _, h.interest_of_asked hi hact, rfl, (hbit _).2 hb,
      (hedge _).trans he⟩

end Epoll

namespace Kqueue

/-- The kernel waits for an event of the descriptor on behalf of the watcher `a`. -/
def WaitsFor (s : KqueueWorld) (fd : ℤ) (a : Addr) (f : Filter) (edge : Bool) : Prop :=
  ∃ n, s.sys.kernel.knotes fd f = some n ∧ n.udata = a ∧ n.enabled = true ∧ n.clear = edge

variable {s : KqueueWorld} {fd : ℤ} {a : Addr} {edge : Bool} {f : Filter}

/-- What the kernel waits for is what is asked for. -/
theorem Awaits.waitsFor_iff (h : Awaits s) :
    WaitsFor s fd a f edge ↔ AskedFor (asked s) fd a f.bit edge := by
  constructor
  · rintro ⟨n, hn, rfl, -, he⟩
    obtain ⟨i, hi, hact, hfd, hf⟩ := h.filter fd f n hn
    unfold filterOf at hf
    split_ifs at hf with hasks
    exact ⟨i, hi, hact, hfd, hasks, (congrArg Knote.clear (Option.some.inj hf)).trans he⟩
  · rintro ⟨i, hi, hact, rfl, hb, he⟩
    refine ⟨⟨a, true, i.events.has .edge⟩, ?_, rfl, rfl, he⟩
    rw [h.active a i hi hact, filterOf, if_pos (show asks i.events f = true from hb)]

end Kqueue

/-- **An epoll loop and a kqueue loop that have given the same replies to the same calls, each
under its rules, wait for the same events.** -/
theorem backends_agree {eventfd : ℤ} {os : List Exchange} {s : Epoll.EpollWorld}
    {t : Kqueue.TimerWorld} (h : (Epoll.timerRuns eventfd).Shows Epoll.Tame Epoll.shown os s)
    (h' : Kqueue.timerRuns.Shows Kqueue.Tame Kqueue.shown os t) :
    Epoll.asked s = Kqueue.asked t.world ∧ ∀ fd a edge, a ≠ NULL →
      (Epoll.WaitsFor s fd a Epoll.EPOLLIN edge ↔ Kqueue.WaitsFor t.world fd a .read edge) ∧
      (Epoll.WaitsFor s fd a Epoll.EPOLLOUT edge ↔ Kqueue.WaitsFor t.world fd a .write edge) := by
  have hsame : Epoll.asked s = Kqueue.asked t.world := by
    have heq := Machine.agree_of_shows watching_determined (Epoll.refines_watching eventfd)
      Kqueue.refines_watching h h'
    exact heq
  obtain ⟨hs, -⟩ := Epoll.Tame.sound h.reach
  have ht := Kqueue.Tame.awaits h'.reach
  refine ⟨hsame, fun fd a edge ha => ⟨?_, ?_⟩⟩
  · rw [hs.waitsFor_iff ha fun events => (Epoll.eventsToEpoll_bits events).1, ht.waitsFor_iff,
      hsame]
    rfl
  · rw [hs.waitsFor_iff ha fun events => (Epoll.eventsToEpoll_bits events).2.1, ht.waitsFor_iff,
      hsame]
    rfl

/-- A watcher and a timer on each of two loops. -/
theorem watcherAndTimers_agree :
    Epoll.asked Epoll.watcherAndTimer = Kqueue.asked Kqueue.watcherAndReport.world ∧
      ∀ fd a edge, a ≠ NULL →
        (Epoll.WaitsFor Epoll.watcherAndTimer fd a Epoll.EPOLLIN edge ↔
          Kqueue.WaitsFor Kqueue.watcherAndReport.world fd a .read edge) ∧
        (Epoll.WaitsFor Epoll.watcherAndTimer fd a Epoll.EPOLLOUT edge ↔
          Kqueue.WaitsFor Kqueue.watcherAndReport.world fd a .write edge) :=
  backends_agree (Epoll.watcherAndTimer_shown.mono fun _ _ hok => hok.1)
    Kqueue.watcherAndReport_shown

end PollDancer
