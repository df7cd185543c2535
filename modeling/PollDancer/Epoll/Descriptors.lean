/-
# The descriptors of timers

Every timer on epoll has a timerfd, which `epoll_timer_create` opens and
`epoll_timer_destroy` closes; a creation that fails after `timerfd_create` closes it again.
The user opens and closes descriptors of its own, and watches and closes them in any order.

In every run of calls the descriptors that are open are the user's, the eventfd, and one for
each timer (`descriptors_kept`): no timer loses its descriptor or leaves one behind, and
neither a creation nor a destruction closes one that is not the timer's.
-/
import PollDancer.Epoll.TimerFrame
import PollDancer.Library.Custody
import PollDancer.Library.Machine

namespace PollDancer
namespace Epoll

open Library

/-- The timerfd of the timer at `t`, if there is one. -/
def timerfdOf (s : EpollWorld) (t : Addr) : Option ℤ :=
  (s.sys.timers t).bind PdTimer.platformData

/-! ### Every run -/

/-- The descriptors that are not timerfds, as the user opens and closes them. -/
def noteFds (_ : EpollWorld) (act : TimerAction) (others : ℤ → Bool) : ℤ → Bool :=
  match act with
  | .openFd fd => Function.update others fd true
  | .closeFd fd => Function.update others fd false
  | _ => others

/-- The runs of a loop on a process with the descriptors `isOpen` and the eventfd. -/
def descriptorRuns (eventfd : ℤ) (isOpen : ℤ → Bool) :
    Machine (EpollWorld × (ℤ → Bool)) TimerAction :=
  Machine.recorded (· = epollLoopCreate eventfd isOpen) (fun s act => some (performTimer s act))
    (Function.update isOpen eventfd true) noteFds

/-- The user opens descriptors that were closed, and closes none of a timer. -/
def KeepsOff (s : EpollWorld × (ℤ → Bool)) : TimerAction → Prop
  | .openFd fd => s.1.sys.kernel.isOpen fd = false
  | .closeFd fd => s.2 fd = true
  | _ => True

theorem descriptorRuns_step {eventfd : ℤ} {isOpen : ℤ → Bool} {s : EpollWorld × (ℤ → Bool)}
    (h : (descriptorRuns eventfd isOpen).Reach KeepsOff s) (act : TimerAction)
    (hok : KeepsOff s act) : (descriptorRuns eventfd isOpen).Reach KeepsOff
      (performTimer s.1 act, noteFds s.1 act s.2) :=
  .step h hok rfl

/-- What the calls keep. -/
structure Accounted (s : EpollWorld) (others : ℤ → Bool) : Prop where
  custody : Custody s.sys.kernel.isOpen others (timerfdOf s)
  timerfd : ∀ t tm, s.sys.timers t = some tm → ∃ fd, tm.platformData = some fd ∧ 0 ≤ fd

section

variable {s s' : EpollWorld} {others : ℤ → Bool} {t : Addr} {tm : PdTimer ℤ} {fd : ℤ}

theorem timerfdOf_of_some (htm : s.sys.timers t = some tm) : timerfdOf s t = tm.platformData := by
  rw [timerfdOf, htm]
  rfl

theorem timerfdOf_of_none (h : s.sys.timers t = none) : timerfdOf s t = none := by
  rw [timerfdOf, h]
  rfl

/-- `active` is no part of the timerfd. -/
theorem timerfdOf_eq_bind (s : EpollWorld) (t : Addr) :
    timerfdOf s t = (setting s t).bind PdTimer.platformData := by
  rw [timerfdOf, setting]
  cases s.sys.timers t <;> rfl

theorem SameFds.timerfdOf (h : SameFds s s') : timerfdOf s' = timerfdOf s := by
  funext t
  rw [timerfdOf_eq_bind, timerfdOf_eq_bind, h.timers t]

/-- A timer that is the same has the timerfd it had. -/
theorem Accounted.timerfd_of_setting (h : Accounted s others) (hsame : setting s' t = setting s t)
    (htm : s'.sys.timers t = some tm) : ∃ fd, tm.platformData = some fd ∧ 0 ≤ fd := by
  obtain ⟨tm₀, htm₀, heq⟩ := exists_of_setting hsame htm
  have hdata : tm₀.platformData = tm.platformData := congrArg (·.platformData) heq
  rw [← hdata]
  exact h.timerfd t tm₀ htm₀

theorem Accounted.same (h : Accounted s others) (hsame : SameFds s s') : Accounted s' others where
  custody := by
    rw [hsame.isOpen, hsame.timerfdOf]
    exact h.custody
  timerfd t _ htm := h.timerfd_of_setting (hsame.timers t) htm

/-- The timerfds when only the timer at `t` is another. -/
theorem timerfdOf_eq_update {p : Option ℤ} (hself : timerfdOf s' t = p)
    (hothers : ∀ t', t' ≠ t → setting s' t' = setting s t') :
    timerfdOf s' = Function.update (timerfdOf s) t p := by
  funext t'
  rcases eq_or_ne t' t with rfl | hne
  · rw [Function.update_self, hself]
  · rw [Function.update_of_ne hne, timerfdOf_eq_bind, timerfdOf_eq_bind, hothers t' hne]

theorem Accounted.opens (h : Accounted s others) (ho : Opens s s' t tm fd) :
    Accounted s' others := by
  have hself : timerfdOf s' t = some fd := (timerfdOf_of_some ho.self).trans ho.timerfd
  refine ⟨?_, fun t' tm' htm' => ?_⟩
  · rw [ho.isOpen, timerfdOf_eq_update hself ho.others]
    exact h.custody.take ho.closed (timerfdOf_of_none ho.new)
  · rcases eq_or_ne t' t with rfl | hne
    · obtain rfl := Option.some.inj (ho.self.symm.trans htm')
      exact ⟨fd, ho.timerfd, ho.nonneg⟩
    · exact h.timerfd_of_setting (ho.others t' hne) htm'

theorem Accounted.closes (h : Accounted s others) (hfd : timerfdOf s t = some fd)
    (hc : Closes s s' t fd) : Accounted s' others := by
  refine ⟨?_, fun t' tm' htm' => ?_⟩
  · rw [hc.isOpen, timerfdOf_eq_update (timerfdOf_of_none hc.self) hc.others]
    exact h.custody.give hfd
  · have hne : t' ≠ t := by
      rintro rfl
      exact absurd (htm'.symm.trans hc.self) (by simp)
    exact h.timerfd_of_setting (hc.others t' hne) htm'

/-- What one action preserves. -/
theorem Accounted.perform {act : TimerAction} (h : Accounted s others)
    (hok : KeepsOff (s, others) act) :
    Accounted (performTimer s act) (noteFds s act others) := by
  cases act with
  | watcher c => exact h.same (sameFds_exec s c)
  | timerCreate timeoutMs intervalMs callback userData env =>
      rcases timerCreate_fds s timeoutMs intervalMs callback userData env with
        ⟨-, hsame⟩ | ⟨t, tm, fd, -, ho, -⟩
      · exact h.same hsame
      · exact h.opens ho
  | timerStart t refused env => exact h.same (sameFds_timerStart s t refused env)
  | timerStop t refused => exact h.same (sameFds_timerStop s t refused)
  | timerDestroy t refused =>
      cases htm : s.sys.timers t with
      | none =>
          have hsame : pdTimerDestroy s t refused = s := by rw [pdTimerDestroy, htm]
          show Accounted (pdTimerDestroy s t refused) others
          rwa [hsame]
      | some tm =>
          obtain ⟨fd, hdata, hnonneg⟩ := h.timerfd t tm htm
          have hfd : timerfdOf s t = some fd := (timerfdOf_of_some htm).trans hdata
          exact h.closes hfd (timerDestroy_fds htm hdata hnonneg refused)
  | closeFd fd => exact ⟨h.custody.close_other hok, h.timerfd⟩
  | openFd fd => exact ⟨h.custody.open_other hok, h.timerfd⟩

end

/-- **The open descriptors are the user's, the eventfd, and one for each timer.** -/
theorem descriptors_kept {eventfd : ℤ} {isOpen others : ℤ → Bool} {s : EpollWorld}
    (h : (descriptorRuns eventfd isOpen).Reach KeepsOff (s, others)) :
    (∀ fd, s.sys.kernel.isOpen fd = true ↔ others fd = true ∨ ∃ t, timerfdOf s t = some fd) ∧
      (∀ t, (s.sys.timers t).isSome → (timerfdOf s t).isSome) ∧
      ∀ t fd, timerfdOf s t = some fd →
        others fd = false ∧ ∀ t', timerfdOf s t' = some fd → t' = t := by
  have hacc : Accounted s others := by
    refine Machine.Reach.recorded_invariant (I := Accounted) ?_ ?_ h
    · rintro s rfl
      exact ⟨.start _, fun t tm htm => absurd htm (by simp [epollLoopCreate])⟩
    · intro s others act s' hi hok hstep
      obtain rfl := Option.some.inj hstep
      exact hi.perform hok
  refine ⟨hacc.custody.open_iff, fun t ht => ?_, fun t fd hfd =>
    ⟨hacc.custody.apart t fd hfd, fun t' hfd' => hacc.custody.injective t' t fd hfd' hfd⟩⟩
  obtain ⟨tm, htm⟩ := Option.isSome_iff_exists.1 ht
  obtain ⟨fd, hdata, -⟩ := hacc.timerfd t tm htm
  rw [timerfdOf_of_some htm, hdata]
  rfl

/-- A timer is created while descriptor 5 is open; another is refused its watcher. -/
def timerAndFive : EpollWorld × (ℤ → Bool) :=
  [TimerAction.openFd 5,
    .timerCreate 10 10 (some (.user 2)) NULL ⟨some 300, some 7, true, granted 200⟩,
    .timerCreate 10 10 (some (.user 2)) NULL
      ⟨some 400, some 8, true, { granted 500 with calloc := none }⟩].foldl
    (fun s act => (performTimer s.1 act, noteFds s.1 act s.2))
    (epollLoopCreate 3 fun _ => false, Function.update (fun _ => false) 3 true)

theorem timerAndFive_kept :
    timerfdOf timerAndFive.1 300 = some 7 ∧ timerfdOf timerAndFive.1 400 = none ∧
    (∀ fd, timerAndFive.1.sys.kernel.isOpen fd = true ↔
      timerAndFive.2 fd = true ∨ ∃ t, timerfdOf timerAndFive.1 t = some fd) ∧
    (∀ t, (timerAndFive.1.sys.timers t).isSome → (timerfdOf timerAndFive.1 t).isSome) ∧
    ∀ t fd, timerfdOf timerAndFive.1 t = some fd →
      timerAndFive.2 fd = false ∧ ∀ t', timerfdOf timerAndFive.1 t' = some fd → t' = t := by
  have h₀ : (descriptorRuns 3 fun _ => false).Reach KeepsOff
      (epollLoopCreate 3 fun _ => false, Function.update (fun _ => false) 3 true) :=
    .init ⟨rfl, rfl⟩
  have h₁ := descriptorRuns_step h₀ (.openFd 5) rfl
  have h₂ := descriptorRuns_step h₁ (.timerCreate 10 10 (some (.user 2)) NULL
    ⟨some 300, some 7, true, granted 200⟩) trivial
  have h₃ : (descriptorRuns 3 fun _ => false).Reach KeepsOff timerAndFive :=
    descriptorRuns_step h₂ (.timerCreate 10 10 (some (.user 2)) NULL
      ⟨some 400, some 8, true, { granted 500 with calloc := none }⟩) trivial
  exact ⟨rfl, rfl, descriptors_kept h₃⟩

end Epoll
end PollDancer
