/-
# What the calls leave of the timers

A watcher call writes no timer, and a call on a timer writes the `active` of that timer and
nothing else of any (`SameFds`), unless it makes the timer or frees it (`Opens`, `Closes`).
The descriptors that are open change with the timers: a timerfd is opened with its timer and
closed with it.
-/
import PollDancer.Epoll.TimerArmed

namespace PollDancer
namespace Epoll

/-- A timer, but for `active`. -/
def resting (tm : PdTimer ℤ) : PdTimer ℤ := { tm with active := false }

/-- The timer at `t`, but for `active`. -/
def setting (s : EpollWorld) (t : Addr) : Option (PdTimer ℤ) := (s.sys.timers t).map resting

/-- The same descriptors are open, and the timers are the same but for `active`. -/
structure SameFds (s s' : EpollWorld) : Prop where
  isOpen : s'.sys.kernel.isOpen = s.sys.kernel.isOpen
  timers : ∀ t, setting s' t = setting s t

section

variable {s s₁ s₂ : EpollWorld} {t : Addr} {tm tm' : PdTimer ℤ} {fd : ℤ}

theorem SameFds.refl (s : EpollWorld) : SameFds s s := ⟨rfl, fun _ => rfl⟩

theorem SameFds.trans (h : SameFds s s₁) (h' : SameFds s₁ s₂) : SameFds s s₂ :=
  ⟨h'.isOpen.trans h.isOpen, fun t => (h'.timers t).trans (h.timers t)⟩

theorem setting_of_some (htm : s.sys.timers t = some tm) :
    setting s t = some (resting tm) := by
  rw [setting, htm]
  rfl

theorem setting_of_none (h : s.sys.timers t = none) : setting s t = none := by
  rw [setting, h]
  rfl

theorem setting_setTimer_ne {t' : Addr} (p : Option (PdTimer ℤ)) (hne : t' ≠ t) :
    setting (setTimer s t p) t' = setting s t' := by
  rw [setting, setTimer_timers_ne s _ hne, setting]

/-- A timer that is the same was there, and differs in `active` at most. -/
theorem exists_of_setting (h : setting s₁ t = setting s t) (htm : s₁.sys.timers t = some tm) :
    ∃ tm₀, s.sys.timers t = some tm₀ ∧ resting tm₀ = resting tm := by
  rw [setting_of_some htm] at h
  exact Option.map_eq_some_iff.1 h.symm

/-- `active` is written. -/
theorem sameFds_setTimer (htm : s.sys.timers t = some tm) (hsame : resting tm' = resting tm) :
    SameFds s (setTimer s t (some tm')) := by
  refine ⟨rfl, fun t' => ?_⟩
  rcases eq_or_ne t' t with rfl | hne
  · rw [setting_of_some (setTimer_timers_self ..), setting_of_some htm, hsame]
  · exact setting_setTimer_ne _ hne

theorem sameFds_exec (s : EpollWorld) (c : Call EpollEnv) : SameFds s (s.exec epollOps c).1 := by
  have hsame := exec_sameTimers s c
  exact ⟨hsame.isOpen, fun t => by rw [setting, hsame.timers, setting]⟩

theorem sameFds_settime {its : Itimerspec} {refused : Option Errno}
    (h : timerfdSettime s fd its refused = .ok s₁) : SameFds s s₁ := by
  obtain ⟨-, -, rfl⟩ := settime_eq_ok h
  exact ⟨rfl, fun _ => rfl⟩

theorem sameFds_epollTimerStart (s : EpollWorld) (tm : PdTimer ℤ) (refused : Option Errno)
    (env : EpollEnv) : SameFds s (epollTimerStart s tm refused env).1 := by
  unfold epollTimerStart
  dsimp only
  split_ifs
  · exact .refl s
  · cases hset : timerfdSettime s (tm.platformData.getD (-1)) (timerSpec tm) refused with
    | error e => exact ⟨rfl, fun _ => rfl⟩
    | ok s₁ =>
        have hsame := sameFds_settime hset
        cases tm.watcher with
        | none => exact hsame
        | some w => exact hsame.trans (sameFds_exec s₁ (.start w env))

theorem sameFds_epollTimerStop (s : EpollWorld) (tm : PdTimer ℤ) (refused : Option Errno) :
    SameFds s (epollTimerStop s tm refused).1 := by
  unfold epollTimerStop
  dsimp only
  split_ifs
  · exact .refl s
  · cases hset : timerfdSettime s (tm.platformData.getD (-1)) ⟨0, 0, 0, 0⟩ refused with
    | error e => exact ⟨rfl, fun _ => rfl⟩
    | ok s₁ =>
        have hsame := sameFds_settime hset
        cases tm.watcher with
        | none => exact hsame
        | some w => exact hsame.trans (sameFds_exec s₁ (.stop w))

/-- A start opens and closes nothing. -/
theorem sameFds_timerStart (s : EpollWorld) (t : Addr) (refused : Option Errno) (env : EpollEnv) :
    SameFds s (pdTimerStart s t refused env).1 := by
  unfold pdTimerStart
  cases htm : s.sys.timers t with
  | none => exact .refl s
  | some tm =>
      dsimp only
      have hset : SameFds s (setTimer s t (some { tm with active := true })) :=
        sameFds_setTimer htm rfl
      have hcall := hset.trans (sameFds_epollTimerStart _ { tm with active := true } refused env)
      split_ifs
      · exact .refl s
      · refine hcall.trans ?_
        obtain ⟨tm', htm', hsame⟩ := exists_of_setting (hcall.timers t).symm htm
        exact sameFds_setTimer htm' hsame.symm
      · exact hcall

/-- Nor does a stop. -/
theorem sameFds_timerStop (s : EpollWorld) (t : Addr) (refused : Option Errno) :
    SameFds s (pdTimerStop s t refused).1 := by
  unfold pdTimerStop
  cases htm : s.sys.timers t with
  | none => exact .refl s
  | some tm =>
      dsimp only
      have hset : SameFds s (setTimer s t (some { tm with active := false })) :=
        sameFds_setTimer htm rfl
      have hcall := hset.trans (sameFds_epollTimerStop _ { tm with active := false } refused)
      split_ifs
      · exact .refl s
      · refine hcall.trans ?_
        obtain ⟨tm', htm', hsame⟩ := exists_of_setting (hcall.timers t).symm htm
        exact sameFds_setTimer htm' hsame.symm
      · exact hcall

/-- The timer at `t` is new, and has opened `fd`. -/
structure Opens (s s' : EpollWorld) (t : Addr) (tm : PdTimer ℤ) (fd : ℤ) : Prop where
  new : s.sys.timers t = none
  closed : s.sys.kernel.isOpen fd = false
  nonneg : 0 ≤ fd
  isOpen : s'.sys.kernel.isOpen = Function.update s.sys.kernel.isOpen fd true
  self : s'.sys.timers t = some tm
  timerfd : tm.platformData = some fd
  others : ∀ t', t' ≠ t → setting s' t' = setting s t'

/-- The timer at `t` is gone, and has closed `fd`. -/
structure Closes (s s' : EpollWorld) (t : Addr) (fd : ℤ) : Prop where
  isOpen : s'.sys.kernel.isOpen = Function.update s.sys.kernel.isOpen fd false
  self : s'.sys.timers t = none
  others : ∀ t', t' ≠ t → setting s' t' = setting s t'

/-- A descriptor that was opened is closed again. -/
theorem sameFds_closeFd (hclosed : s.sys.kernel.isOpen fd = false)
    (h : SameFds (openFd s fd) s₁) : SameFds s (closeFd s₁ fd) := by
  refine ⟨?_, h.timers⟩
  show Function.update s₁.sys.kernel.isOpen fd false = s.sys.kernel.isOpen
  have hopened : s₁.sys.kernel.isOpen = Function.update s.sys.kernel.isOpen fd true := h.isOpen
  rw [hopened, Function.update_idem, ← hclosed, Function.update_eq_self]

/-- `epoll_timer_create` leaves a timerfd open exactly if it succeeds, and keeps the delays. -/
theorem epollTimerCreate_fds (s : EpollWorld) (t : Addr) (tm : PdTimer ℤ) (env : TimerEnv) :
    ((epollTimerCreate s t tm env).2.2 ≠ .ok ∧ SameFds s (epollTimerCreate s t tm env).1) ∨
    ((epollTimerCreate s t tm env).2.2 = .ok ∧ ∃ fd, s.sys.kernel.isOpen fd = false ∧ 0 ≤ fd ∧
      (epollTimerCreate s t tm env).2.1.platformData = some fd ∧
      (epollTimerCreate s t tm env).2.1.timeoutMs = tm.timeoutMs ∧
      (epollTimerCreate s t tm env).2.1.intervalMs = tm.intervalMs ∧
      SameFds (openFd s fd) (epollTimerCreate s t tm env).1) := by
  unfold epollTimerCreate
  cases hfd : timerfdCreate s env.timerfd with
  | none => exact .inl ⟨by simp, rfl, fun _ => rfl⟩
  | some fd =>
      obtain ⟨-, hfree⟩ := Option.filter_eq_some_iff.1 hfd
      obtain ⟨hnonneg, hclosed⟩ := of_decide_eq_true hfree
      dsimp only
      split_ifs
      · exact .inl ⟨by simp, sameFds_closeFd hclosed (.refl _)⟩
      · have hmade := sameFds_exec (openFd s fd) (.create fd .read (some .timerfd) t env.watcher)
        split
        · exact .inl ⟨by simp, sameFds_closeFd hclosed hmade⟩
        · refine .inr ⟨rfl, fd, hclosed, hnonneg, rfl, rfl, rfl, hmade.trans ?_⟩
          exact sameFds_exec _ (.stop _)

/-- `pd_timer_create` opens a descriptor and makes a timer with these delays, or does
neither. -/
theorem timerCreate_fds (s : EpollWorld) (timeoutMs intervalMs : UInt64)
    (callback : Option Callback) (userData : Addr) (env : TimerEnv) :
    let r := pdTimerCreate s timeoutMs intervalMs callback userData env
    (r.2 = none ∧ SameFds s r.1) ∨
    ∃ t tm fd, r.2 = some t ∧ Opens s r.1 t tm fd ∧ tm.timeoutMs = timeoutMs ∧
      tm.intervalMs = intervalMs := by
  dsimp only
  unfold pdTimerCreate
  cases callback with
  | none => exact .inl ⟨rfl, .refl s⟩
  | some callback =>
      cases ht : callocTimer s env.calloc with
      | none => exact .inl ⟨rfl, .refl s⟩
      | some t =>
          obtain ⟨-, hfree⟩ := Option.filter_eq_some_iff.1 ht
          have hnew : s.sys.timers t = none :=
            Option.isNone_iff_eq_none.1 (of_decide_eq_true hfree).2
          dsimp only
          rcases epollTimerCreate_fds s t ⟨none, timeoutMs, intervalMs, callback, userData, false,
            false, none⟩ env with
            ⟨hne, hsame⟩ | ⟨hok, fd, hclosed, hnonneg, hdata, htimeout, hinterval, hsame⟩
          · rw [if_pos hne]
            exact .inl ⟨rfl, hsame⟩
          · rw [if_neg (not_not_intro hok)]
            refine .inr ⟨t, _, fd, rfl, ⟨hnew, hclosed, hnonneg, hsame.isOpen,
              setTimer_timers_self .., hdata, fun t' hne => ?_⟩, htimeout, hinterval⟩
            exact (setting_setTimer_ne _ hne).trans (hsame.timers t')

/-- The timerfd is closed and the structure is freed. -/
theorem closes_of_sameFds (hsame : SameFds s s₁) (hdata : tm.platformData = some fd)
    (hnonneg : 0 ≤ fd) : Closes s (setTimer (epollTimerDestroy s₁ tm) t none) t fd := by
  have hclose : epollTimerDestroy s₁ tm = closeFd s₁ fd := by
    rw [epollTimerDestroy, hdata]
    exact if_pos hnonneg
  rw [hclose]
  refine ⟨?_, setTimer_timers_self .., fun t' hne => ?_⟩
  · show Function.update s₁.sys.kernel.isOpen fd false = _
    rw [hsame.isOpen]
  · exact (setting_setTimer_ne _ hne).trans (hsame.timers t')

/-- `pd_timer_destroy` stops the timer and destroys its watcher before the timerfd is closed
and the structure freed. -/
theorem exists_timerDestroy (htm : s.sys.timers t = some tm) (refused : Option Errno) :
    ∃ s₁, SameFds s s₁ ∧
      pdTimerDestroy s t refused = setTimer (epollTimerDestroy s₁ tm) t none := by
  rw [pdTimerDestroy, htm]
  dsimp only
  have hstop : SameFds s (if tm.active then (pdTimerStop s t refused).1 else s) := by
    split_ifs
    · exact sameFds_timerStop s t refused
    · exact .refl s
  generalize (if tm.active then (pdTimerStop s t refused).1 else s) = s₁ at hstop ⊢
  cases tm.watcher with
  | none => exact ⟨s₁, hstop, rfl⟩
  | some w =>
      dsimp only
      split_ifs
      · exact ⟨_, hstop.trans (sameFds_exec s₁ (.destroy w)), rfl⟩
      · exact ⟨s₁, hstop, rfl⟩

/-- `pd_timer_destroy` closes the timerfd and nothing else. -/
theorem timerDestroy_fds (htm : s.sys.timers t = some tm) (hdata : tm.platformData = some fd)
    (hnonneg : 0 ≤ fd) (refused : Option Errno) : Closes s (pdTimerDestroy s t refused) t fd := by
  obtain ⟨s₁, hsame, heq⟩ := exists_timerDestroy htm refused
  rw [heq]
  exact closes_of_sameFds hsame hdata hnonneg

/-- It frees the timer, and leaves the others as they are. -/
theorem timerDestroy_setting (s : EpollWorld) (t : Addr) (refused : Option Errno) :
    setting (pdTimerDestroy s t refused) t = none ∧
      ∀ t', t' ≠ t → setting (pdTimerDestroy s t refused) t' = setting s t' := by
  cases htm : s.sys.timers t with
  | none =>
      rw [show pdTimerDestroy s t refused = s by rw [pdTimerDestroy, htm]]
      exact ⟨setting_of_none htm, fun _ _ => rfl⟩
  | some tm =>
      obtain ⟨s₁, hsame, heq⟩ := exists_timerDestroy htm refused
      have hclose : ∀ t', setting (epollTimerDestroy s₁ tm) t' = setting s₁ t' := by
        intro t'
        unfold epollTimerDestroy
        cases tm.platformData with
        | none => rfl
        | some fd =>
            dsimp only
            split_ifs <;> rfl
      rw [heq]
      refine ⟨setting_of_none (setTimer_timers_self ..), fun t' hne => ?_⟩
      rw [setting_setTimer_ne _ hne, hclose, hsame.timers]

end

end Epoll
end PollDancer
