/-
# The two masks of epoll

`events_to_epoll` and `epoll_to_events` bit by bit, for every mask.  What the kernel reports
for a mask is an event of it, or one of the two that are always reported (`reported_asked`).
-/
import PollDancer.Epoll.Backend

namespace PollDancer
namespace Epoll

section

variable {events : PdEvent} {e : UInt32}

/-- The translation depends on six bits. -/
theorem eventsToEpoll_bits (events : PdEvent) :
    (eventsToEpoll events &&& EPOLLIN ≠ 0 ↔ events.has .read = true) ∧
    (eventsToEpoll events &&& EPOLLOUT ≠ 0 ↔ events.has .write = true) ∧
    (eventsToEpoll events &&& EPOLLERR ≠ 0 ↔ events.has .error = true) ∧
    (eventsToEpoll events &&& (EPOLLHUP ||| EPOLLRDHUP) ≠ 0 ↔ events.has .hangup = true) ∧
    (eventsToEpoll events &&& EPOLLPRI ≠ 0 ↔ events.has .pri = true) ∧
    (eventsToEpoll events &&& EPOLLET ≠ 0 ↔ events.has .edge = true) := by
  unfold eventsToEpoll
  generalize events.has .read = r
  generalize events.has .write = w
  generalize events.has .error = e
  generalize events.has .hangup = h
  generalize events.has .pri = p
  generalize events.has .edge = t
  revert r w e h p t
  decide

theorem epollToEvents_bits (e : UInt32) :
    ((epollToEvents e).has .read = true ↔ e &&& EPOLLIN ≠ 0) ∧
    ((epollToEvents e).has .write = true ↔ e &&& EPOLLOUT ≠ 0) ∧
    ((epollToEvents e).has .pri = true ↔ e &&& EPOLLPRI ≠ 0) ∧
    (epollToEvents e).has .edge = false := by
  unfold epollToEvents
  simp only [← bne_iff_ne]
  generalize (e &&& EPOLLIN != 0) = r
  generalize (e &&& EPOLLOUT != 0) = w
  generalize (e &&& EPOLLERR != 0) = x
  generalize (e &&& (EPOLLHUP ||| EPOLLRDHUP) != 0) = h
  generalize (e &&& EPOLLPRI != 0) = p
  revert r w x h p
  decide

/-- A bit of a mask that another mask covers is a bit of the other. -/
theorem and_ne_zero_of_covered {e m bit : UInt32} (hcover : e &&& m = e) (h : e &&& bit ≠ 0) :
    m &&& bit ≠ 0 := by
  intro hzero
  refine h ?_
  rw [← hcover, UInt32.and_assoc, hzero, UInt32.and_zero]

/-- The events that are always reported add none of these bits. -/
theorem reported_bits (events : PdEvent) :
    ((eventsToEpoll events ||| EPOLLERR ||| EPOLLHUP) &&& EPOLLIN ≠ 0 →
      events.has .read = true) ∧
    ((eventsToEpoll events ||| EPOLLERR ||| EPOLLHUP) &&& EPOLLOUT ≠ 0 →
      events.has .write = true) ∧
    ((eventsToEpoll events ||| EPOLLERR ||| EPOLLHUP) &&& EPOLLPRI ≠ 0 →
      events.has .pri = true) := by
  unfold eventsToEpoll
  generalize events.has .read = r
  generalize events.has .write = w
  generalize events.has .error = e
  generalize events.has .hangup = h
  generalize events.has .pri = p
  generalize events.has .edge = t
  revert r w e h p t
  decide

/-- **What the kernel reports for a mask was asked for**, apart from errors and hang-ups,
which are always reported. -/
theorem reported_asked {bit : PdEvent}
    (hcover : e &&& (eventsToEpoll events ||| EPOLLERR ||| EPOLLHUP) = e)
    (hbit : bit = .read ∨ bit = .write ∨ bit = .pri ∨ bit = .edge)
    (h : (epollToEvents e).has bit = true) : events.has bit = true := by
  obtain ⟨hr, hw, hp, ht⟩ := epollToEvents_bits e
  obtain ⟨hin, hout, hpri⟩ := reported_bits events
  rcases hbit with rfl | rfl | rfl | rfl
  · exact hin (and_ne_zero_of_covered hcover (hr.1 h))
  · exact hout (and_ne_zero_of_covered hcover (hw.1 h))
  · exact hpri (and_ne_zero_of_covered hcover (hp.1 h))
  · exact absurd (ht.symm.trans h) Bool.false_ne_true

end
end Epoll
end PollDancer
