/-
# Active timers of epoll

A timerfd that is armed without an interval is disarmed when it expires, and `active` stays
set: `pd_timer_start` then returns `PD_OK` and arms nothing.  A start that has armed the
timerfd leaves it armed where its watcher cannot be registered, and `active` is cleared.

While the timerfd repeats, and neither happens, it is armed exactly while the timer is active.
-/
import PollDancer.Epoll.TimerEvents
import PollDancer.Lifecycle

namespace PollDancer
namespace Epoll

open Library TimerBackend

/-! ### The timerfds of the kernel -/

section

variable {k₀ k : EpollSys} {s : EpollWorld}

/-- The timers, the settings of their timerfds and the open descriptors are the same. -/
structure SameTimers (k₀ k : EpollSys) : Prop where
  timers : k.timers = k₀.timers
  settings : k.kernel.timers = k₀.kernel.timers
  isOpen : k.kernel.isOpen = k₀.kernel.isOpen

theorem SameTimers.release (h : SameTimers k₀ k) (fd : ℤ) :
    (k.kernel.release fd).timers = k₀.kernel.timers := by
  unfold Kernel.release
  split
  · exact h.settings
  · exact h.settings

/-- The watcher part of the backend leaves the timers alone. -/
theorem epollOps_sameTimers (k₀ : EpollSys) : epollOps.Keeps (SameTimers k₀) where
  register k a w env h := by
    change SameTimers k₀ (epollWatcherRegister k a w env).sys
    cases hd : k.data with
    | none =>
        rw [epollWatcherRegister, hd]
        exact h
    | some d =>
        rcases register_cases hd a w env with ⟨-, -, hy⟩ | ⟨-, -, hy⟩ | ⟨-, -, -, -, hy⟩ <;>
          exact ⟨hy.timers_eq.trans h.timers,
            (congrArg Kernel.timers hy.kernel_eq).trans h.settings,
            (congrArg Kernel.isOpen hy.kernel_eq).trans h.isOpen⟩
  registerHandle _ _ _ _ h := ⟨h.timers, h.settings, h.isOpen⟩
  update k a w events env h := by
    change SameTimers k₀ (epollWatcherUpdate k a w events env).sys
    unfold epollWatcherUpdate
    cases k.data with
    | none => exact h
    | some d =>
        cases w.platformData with
        | none => exact h
        | some wd =>
            dsimp only
            split
            · exact ⟨h.timers, h.settings, h.isOpen⟩
            · rename_i hmod
              obtain ⟨-, -, rfl⟩ := Kernel.ctlMod_eq_ok hmod
              exact ⟨h.timers, h.settings, h.isOpen⟩
  unregister k a w h := by
    change SameTimers k₀ (epollWatcherUnregister k a w).sys
    cases hd : k.data with
    | none =>
        rw [epollWatcherUnregister, hd]
        exact h
    | some d =>
        rcases unregister_cases hd a w with ⟨-, -, hy⟩ | ⟨-, -, -, -, hy⟩ | ⟨-, -, -, hy⟩
        · exact ⟨hy.timers_eq.trans h.timers,
            (congrArg Kernel.timers hy.kernel_eq).trans h.settings,
            (congrArg Kernel.isOpen hy.kernel_eq).trans h.isOpen⟩
        · exact ⟨hy.timers_eq.trans h.timers,
            (congrArg Kernel.timers hy.kernel_eq).trans h.settings,
            (congrArg Kernel.isOpen hy.kernel_eq).trans h.isOpen⟩
        · refine ⟨hy.timers_eq.trans h.timers,
            (congrArg Kernel.timers hy.kernel_eq).trans (h.release w.fd), ?_⟩
          rw [hy.kernel_eq, Kernel.release_isOpen]
          exact h.isOpen

/-- A call on a watcher leaves the timers alone. -/
theorem exec_sameTimers (s : EpollWorld) (c : Call EpollEnv) :
    SameTimers s.sys (s.exec epollOps c).1.sys :=
  World.exec_keeps (epollOps_sameTimers s.sys) c ⟨rfl, rfl, rfl⟩

/-- A descriptor that is not open has no setting. -/
def Kernel.Fresh (k : Kernel) : Prop := ∀ fd, k.isOpen fd = false → k.timers fd = none

theorem SameTimers.fresh (h : SameTimers k₀ k) (hk : k₀.kernel.Fresh) : k.kernel.Fresh := by
  intro fd hfd
  rw [h.settings]
  exact hk fd (h.isOpen ▸ hfd)

namespace Kernel

variable {k : Kernel} {fd : ℤ}

theorem Fresh.close (h : k.Fresh) (fd : ℤ) : (k.close fd).Fresh := by
  intro fd' hfd'
  rcases eq_or_ne fd' fd with rfl | hne
  · exact Function.update_self ..
  · refine (Function.update_of_ne hne ..).trans (h fd' ?_)
    exact (Function.update_of_ne hne ..).symm.trans hfd'

theorem Fresh.openFd (h : k.Fresh) (fd : ℤ) : (k.openFd fd).Fresh := by
  intro fd' hfd'
  rcases eq_or_ne fd' fd with rfl | hne
  · exact nomatch (Function.update_self ..).symm.trans hfd'
  · exact h fd' ((Function.update_of_ne hne ..).symm.trans hfd')

theorem Fresh.settime (h : k.Fresh) (hopen : k.isOpen fd = true) (its : Itimerspec) :
    (k.settime fd its).Fresh := by
  intro fd' hfd'
  have hne : fd' ≠ fd := by
    rintro rfl
    exact nomatch hopen.symm.trans hfd'
  exact (Function.update_of_ne hne ..).trans (h fd' hfd')

end Kernel

theorem fresh_exec (h : s.sys.kernel.Fresh) (c : Call EpollEnv) :
    (s.exec epollOps c).1.sys.kernel.Fresh :=
  (exec_sameTimers s c).fresh h

theorem fresh_epollTimerStart (h : s.sys.kernel.Fresh) (tm : PdTimer ℤ) (refused : Option Errno)
    (env : EpollEnv) : (epollTimerStart s tm refused env).1.sys.kernel.Fresh := by
  unfold epollTimerStart
  dsimp only
  split_ifs
  · exact h
  · cases hset : timerfdSettime s (tm.platformData.getD (-1)) (timerSpec tm) refused with
    | error e => exact h
    | ok s' =>
        obtain ⟨-, hopen, rfl⟩ := settime_eq_ok hset
        have hfresh := h.settime hopen (timerSpec tm)
        cases tm.watcher with
        | none => exact hfresh
        | some w => exact fresh_exec hfresh (.start w env)

theorem fresh_epollTimerStop (h : s.sys.kernel.Fresh) (tm : PdTimer ℤ) (refused : Option Errno) :
    (epollTimerStop s tm refused).1.sys.kernel.Fresh := by
  unfold epollTimerStop
  dsimp only
  split_ifs
  · exact h
  · cases hset : timerfdSettime s (tm.platformData.getD (-1)) ⟨0, 0, 0, 0⟩ refused with
    | error e => exact h
    | ok s' =>
        obtain ⟨-, hopen, rfl⟩ := settime_eq_ok hset
        have hfresh := h.settime hopen ⟨0, 0, 0, 0⟩
        cases tm.watcher with
        | none => exact hfresh
        | some w => exact fresh_exec hfresh (.stop w)

theorem fresh_timerStart (h : s.sys.kernel.Fresh) (t : Addr) (refused : Option Errno)
    (env : EpollEnv) : (pdTimerStart s t refused env).1.sys.kernel.Fresh := by
  unfold pdTimerStart
  cases s.sys.timers t with
  | none => exact h
  | some tm =>
      dsimp only
      split_ifs
      · exact h
      · exact fresh_epollTimerStart (s := setTimer s t _) h _ refused env
      · exact fresh_epollTimerStart (s := setTimer s t _) h _ refused env

theorem fresh_timerStop (h : s.sys.kernel.Fresh) (t : Addr) (refused : Option Errno) :
    (pdTimerStop s t refused).1.sys.kernel.Fresh := by
  unfold pdTimerStop
  cases s.sys.timers t with
  | none => exact h
  | some tm =>
      dsimp only
      split_ifs
      · exact h
      · exact fresh_epollTimerStop (s := setTimer s t _) h _ refused
      · exact fresh_epollTimerStop (s := setTimer s t _) h _ refused

theorem fresh_timerCreate (h : s.sys.kernel.Fresh) (timeoutMs intervalMs : UInt64)
    (callback : Option Callback) (userData : Addr) (env : TimerEnv) :
    (pdTimerCreate s timeoutMs intervalMs callback userData env).1.sys.kernel.Fresh := by
  have hcreate : ∀ t tm, (epollTimerCreate s t tm env).1.sys.kernel.Fresh := by
    intro t tm
    unfold epollTimerCreate
    cases timerfdCreate s env.timerfd with
    | none => exact h
    | some fd =>
        dsimp only
        split_ifs
        · exact (h.openFd fd).close fd
        · have hopened : (openFd s fd).sys.kernel.Fresh := h.openFd fd
          have hmade := fresh_exec hopened (.create fd .read (some .timerfd) t env.watcher)
          split
          · exact hmade.close fd
          · exact fresh_exec hmade (.stop _)
  unfold pdTimerCreate
  cases callback with
  | none => exact h
  | some callback =>
      cases callocTimer s env.calloc with
      | none => exact h
      | some t =>
          dsimp only
          split_ifs
          · exact hcreate t _
          · exact hcreate t _

theorem fresh_timerDestroy (h : s.sys.kernel.Fresh) (t : Addr) (refused : Option Errno) :
    (pdTimerDestroy s t refused).sys.kernel.Fresh := by
  unfold pdTimerDestroy
  cases s.sys.timers t with
  | none => exact h
  | some tm =>
      have hstop : (if tm.active then (pdTimerStop s t refused).1 else s).sys.kernel.Fresh := by
        split_ifs
        · exact fresh_timerStop h t refused
        · exact h
      have hdestroy : ∀ s' : EpollWorld, s'.sys.kernel.Fresh →
          (epollTimerDestroy s' tm).sys.kernel.Fresh := by
        intro s' hs'
        unfold epollTimerDestroy
        cases tm.platformData with
        | none => exact hs'
        | some fd =>
            dsimp only
            split_ifs
            · exact hs'.close fd
            · exact hs'
      refine hdestroy _ ?_
      generalize (if tm.active then (pdTimerStop s t refused).1 else s) = s' at hstop ⊢
      cases tm.watcher with
      | none => exact hstop
      | some w =>
          dsimp only
          split_ifs
          · exact fresh_exec hstop (.destroy w)
          · exact hstop

/-- What an action keeps. -/
theorem fresh_perform (h : s.sys.kernel.Fresh) (act : TimerAction) :
    (performTimer s act).sys.kernel.Fresh := by
  cases act with
  | watcher c => exact fresh_exec h c
  | timerCreate timeoutMs intervalMs callback userData env =>
      exact fresh_timerCreate h timeoutMs intervalMs callback userData env
  | timerStart t refused env => exact fresh_timerStart h t refused env
  | timerStop t refused => exact fresh_timerStop h t refused
  | timerDestroy t refused => exact fresh_timerDestroy h t refused
  | closeFd fd => exact h.close fd
  | openFd fd => exact h.openFd fd

/-- No descriptor that is not open has a setting, in any run. -/
theorem fresh_of_reach {eventfd : ℤ} {ok : EpollWorld → TimerAction → Prop}
    (h : (timerRuns eventfd).Reach ok s) : s.sys.kernel.Fresh := by
  refine h.invariant (I := fun s : EpollWorld => s.sys.kernel.Fresh) ?_ ?_
  · rintro s ⟨isOpen, rfl⟩ fd -
    rfl
  · rintro s act s' hi - hnext
    obtain rfl := Option.some.inj hnext
    exact fresh_perform hi act

end

/-! ### The gauge -/

/-- A timer with this setting is armed. -/
def Itimerspec.armed (its : Itimerspec) : Bool := its.valueSec != 0 || its.valueNsec != 0

/-- A timer with this setting stays armed when it expires. -/
def Itimerspec.repeats (its : Itimerspec) : Bool := its.intervalSec != 0 || its.intervalNsec != 0

/-- Is the timerfd armed? -/
def armed (s : EpollWorld) (t : Addr) : Bool :=
  (s.sys.kernel.timers (timerfd s t)).any Itimerspec.armed

/-- Does it stay armed when it expires? -/
def repeats (s : EpollWorld) (t : Addr) : Bool :=
  (s.sys.kernel.timers (timerfd s t)).any Itimerspec.repeats

/-- There is memory for the record and for the table where it is full, and the kernel takes
the timerfd. -/
def registrable (s : EpollWorld) (t : Addr) (env : EpollEnv) : Bool :=
  env.dataAlloc && env.refused.isNone && (s.sys.kernel.interest (timerfd s t)).isNone &&
    (env.growTable || s.sys.data.any fun d => ((s.sys.timers t).bind (·.watcher)).any fun a =>
      decide ((epollEvictStaleRegistration d (timerfd s t) a).registrations.length <
        d.registrationCapacity))

/-- What epoll can tell of the timer `t`. -/
def timerGauge (t : Addr) : Gauge Watched TimerCallEnv where
  active k := active k.world t
  armed k := armed k.world t
  rearms _ := false
  pending k := {n | k.ticks = some n}
  startable k env :=
    active k.world t || !settable k.world t env.refused || registrable k.world t env.register
  stoppable k env := settable k.world t env.refused
  repeats k := repeats k.world t

/-- The watcher of the timer has `timerfd_callback`, with the timer. -/
def Handled (s : EpollWorld) (t : Addr) : Prop :=
  ∀ tm a w, s.sys.timers t = some tm → tm.watcher = some a → s.heap a = some w →
    w.handler = (some .timerfd, t)

/-- What the calls keep: the timerfd is armed exactly while the timer is active, and has no
expiration that has not been read while it is not; and its watcher has `timerfd_callback`. -/
structure Watched.Armed (eventfd : ℤ) (t : Addr) (k : Watched) : Prop where
  inv : k.Inv eventfd t
  agrees : armed k.world t = active k.world t
  ticks : active k.world t = false → k.ticks = none
  handled : Handled k.world t

section

variable {eventfd : ℤ} {t a : Addr} {k : Watched} {s s' : EpollWorld} {tm : PdTimer ℤ}

theorem armed_of_some (h : s.sys.timers t = some tm) :
    armed s t = (s.sys.kernel.timers (tm.platformData.getD (-1))).any Itimerspec.armed := by
  rw [armed, timerfd_of_some h]

/-- The setting of `epoll_timer_start` arms the timerfd. -/
theorem timerSpec_armed (tm : PdTimer ℤ) : (timerSpec tm).armed = true := by
  rw [Itimerspec.armed, Bool.or_eq_true, bne_iff_ne, bne_iff_ne, timerSpec]
  dsimp only
  split_ifs with hpos
  · have hpos' : 0 < tm.timeoutMs.toNat := UInt64.lt_iff_toNat_lt.1 hpos
    have hsmall : tm.timeoutMs.toNat % 1000 < 1000 := Nat.mod_lt _ (by decide)
    rw [UInt64.toNat_mul, UInt64.toNat_mod, UInt64.toNat_div]
    simp only [UInt64.reduceToNat]
    -- the product is less than a second, in nanoseconds
    rw [Nat.mod_eq_of_lt (by omega)]
    omega
  · exact .inr Int.one_ne_zero

theorem settable_of_some (htm : s.sys.timers t = some tm) {refused : Option Errno} :
    settable s t refused = true ↔ 0 ≤ tm.platformData.getD (-1) ∧ refused = none ∧
      s.sys.kernel.isOpen (tm.platformData.getD (-1)) = true := by
  simp [settable, timerfd_of_some htm, and_assoc]

/-- `timerfd_settime` is accepted where it can be. -/
theorem settime_of_settable (htm : s.sys.timers t = some tm) {refused : Option Errno}
    (hset : settable s t refused = true) (tm' : Option (PdTimer ℤ)) (its : Itimerspec) :
    timerfdSettime (setTimer s t tm') (tm.platformData.getD (-1)) its refused =
      .ok (setKernel (setTimer s t tm')
        (s.sys.kernel.settime (tm.platformData.getD (-1)) its)) := by
  obtain ⟨-, rfl, hopen⟩ := (settable_of_some htm).1 hset
  exact if_pos hopen

/-- Otherwise the backend fails, and sets nothing. -/
theorem settime_of_not_settable (htm : s.sys.timers t = some tm) {refused : Option Errno}
    (hset : settable s t refused = false) (tm' : Option (PdTimer ℤ)) (its : Itimerspec)
    (hfd : ¬tm.platformData.getD (-1) < 0) :
    ∃ e, timerfdSettime (setTimer s t tm') (tm.platformData.getD (-1)) its refused = .error e := by
  cases hs : timerfdSettime (setTimer s t tm') (tm.platformData.getD (-1)) its refused with
  | error e => exact ⟨e, rfl⟩
  | ok s' =>
      obtain ⟨hrefused, hopen, -⟩ := settime_eq_ok hs
      have hyes := (settable_of_some htm).2 ⟨Int.not_lt.1 hfd, hrefused, hopen⟩
      exact nomatch hset.symm.trans hyes

/-- The settings of the timerfds after a call that sets that of `t`, if it can. -/
def resetTimer (s : EpollWorld) (t : Addr) (refused : Option Errno) (its : Itimerspec) :
    ℤ → Option Itimerspec :=
  if settable s t refused then Function.update s.sys.kernel.timers (timerfd s t) (some its)
  else s.sys.kernel.timers

/-- `epoll_timer_start` and `epoll_timer_stop`: the timerfd is set, and then a call is made
on its watcher. -/
def setThenCall (s : EpollWorld) (tm : PdTimer ℤ) (its : Itimerspec) (refused : Option Errno)
    (call : EpollWorld → Addr → EpollWorld × PdError) : EpollWorld × PdError :=
  if tm.platformData.getD (-1) < 0 then (s, .system)
  else match timerfdSettime s (tm.platformData.getD (-1)) its refused with
    | .error e => (s.setSys (s.sys.setError e), .system)
    | .ok s =>
      match tm.watcher with
      | none => (s, .ok)
      | some w => call s w

theorem epollTimerStart_eq (s : EpollWorld) (tm : PdTimer ℤ) (refused : Option Errno)
    (env : EpollEnv) : epollTimerStart s tm refused env =
      setThenCall s tm (timerSpec tm) refused fun s w => pdWatcherStart epollOps s w env := rfl

theorem epollTimerStop_eq (s : EpollWorld) (tm : PdTimer ℤ) (refused : Option Errno) :
    epollTimerStop s tm refused =
      setThenCall s tm ⟨0, 0, 0, 0⟩ refused fun s w => pdWatcherStop epollOps s w := rfl

/-- A timerfd that cannot be set leaves the call without an effect, and it fails. -/
theorem setThenCall_of_not_settable (htm : s.sys.timers t = some tm) {tm' : PdTimer ℤ}
    (hp : tm'.platformData = tm.platformData) {refused : Option Errno} (its : Itimerspec)
    (call : EpollWorld → Addr → EpollWorld × PdError) (hset : settable s t refused = false) :
    let r := setThenCall (setTimer s t (some tm')) tm' its refused call
    r.2 = .system ∧ r.1.sys.timers = (setTimer s t (some tm')).sys.timers ∧
      r.1.sys.kernel.timers = s.sys.kernel.timers := by
  dsimp only
  unfold setThenCall
  rw [hp]
  by_cases hfd : tm.platformData.getD (-1) < 0
  · rw [if_pos hfd]
    exact ⟨rfl, rfl, rfl⟩
  · obtain ⟨e, he⟩ := settime_of_not_settable htm hset (some tm') its hfd
    rw [if_neg hfd, he]
    exact ⟨rfl, rfl, rfl⟩

/-- Otherwise the call is made on the watcher of a timer that has one. -/
theorem setThenCall_of_settable (htm : s.sys.timers t = some tm) {tm' : PdTimer ℤ}
    (hp : tm'.platformData = tm.platformData) {refused : Option Errno} (its : Itimerspec)
    (call : EpollWorld → Addr → EpollWorld × PdError) (hset : settable s t refused = true)
    (ha : tm'.watcher = some a) :
    setThenCall (setTimer s t (some tm')) tm' its refused call =
      call (setKernel (setTimer s t (some tm'))
        (s.sys.kernel.settime (tm.platformData.getD (-1)) its)) a := by
  have hfd := Int.not_lt.2 ((settable_of_some htm).1 hset).1
  unfold setThenCall
  rw [hp, if_neg hfd, settime_of_settable htm hset, ha]

/-- The settings of the timerfds after a call that sets that of `t`, if it can. -/
theorem setThenCall_settings (htm : s.sys.timers t = some tm) {tm' : PdTimer ℤ}
    (hp : tm'.platformData = tm.platformData) (refused : Option Errno) (its : Itimerspec)
    (ha : tm'.watcher = some a) {call : EpollWorld → Addr → EpollWorld × PdError}
    (hcall : ∀ s w, SameTimers s.sys (call s w).1.sys) :
    let r := setThenCall (setTimer s t (some tm')) tm' its refused call
    r.1.sys.timers = (setTimer s t (some tm')).sys.timers ∧
      r.1.sys.kernel.timers = resetTimer s t refused its := by
  dsimp only
  rw [resetTimer, timerfd_of_some htm]
  cases hset : settable s t refused with
  | true =>
      rw [setThenCall_of_settable htm hp its call hset ha]
      have hsame := hcall (setKernel (setTimer s t (some tm'))
        (s.sys.kernel.settime (tm.platformData.getD (-1)) its)) a
      exact ⟨hsame.timers, hsame.settings⟩
  | false => exact (setThenCall_of_not_settable htm hp its call hset).2

/-- The watcher keeps its callback. -/
theorem setThenCall_handler {tm' : PdTimer ℤ} {w : PdWatcher EpollWatcherData}
    (hw : s.heap a = some w) (ha : tm'.watcher = some a) (its : Itimerspec)
    (refused : Option Errno) (call : EpollWorld → Addr → EpollWorld × PdError)
    (hcall : ∀ s : EpollWorld, s.heap a = some w →
      ∃ x, (call s a).1.heap a = some x ∧ x.handler = w.handler) :
    ∃ x, (setThenCall (setTimer s t (some tm')) tm' its refused call).1.heap a = some x ∧
      x.handler = w.handler := by
  unfold setThenCall
  split_ifs
  · exact ⟨w, hw, rfl⟩
  · cases hset : timerfdSettime (setTimer s t (some tm')) (tm'.platformData.getD (-1)) its
        refused with
    | error e => exact ⟨w, hw, rfl⟩
    | ok s' =>
        obtain ⟨-, -, rfl⟩ := settime_eq_ok hset
        rw [ha]
        exact hcall _ hw

theorem Handled.of_some {w x : PdWatcher EpollWatcherData} (h : Handled s t)
    (htm : s.sys.timers t = some tm) (ha : tm.watcher = some a) (hw : s.heap a = some w)
    {tm' : PdTimer ℤ} (htm' : s'.sys.timers t = some tm') (ha' : tm'.watcher = some a)
    (hx : s'.heap a = some x) (hsame : x.handler = w.handler) : Handled s' t := by
  intro tm₂ b y htm₂ hb hy
  obtain rfl := Option.some.inj (htm'.symm.trans htm₂)
  obtain rfl := Option.some.inj (ha'.symm.trans hb)
  obtain rfl := Option.some.inj (hx.symm.trans hy)
  exact hsame.trans (h tm a w htm ha hw)

theorem Handled.start (h : Handled s t) (ht : TimersOwn s) (refused : Option Errno)
    (env : EpollEnv) : Handled (pdTimerStart s t refused env).1 t := by
  unfold pdTimerStart
  cases htm : s.sys.timers t with
  | none => exact h
  | some tm =>
      obtain ⟨a, w, ha, -, hw, -⟩ := ht.owns t tm htm
      let tm₁ : PdTimer ℤ := { tm with active := true }
      obtain ⟨htimers, -⟩ := setThenCall_settings htm (show tm₁.platformData = _ from rfl)
        refused (timerSpec tm₁) ha fun s w => exec_sameTimers s (.start w env)
      obtain ⟨x, hx, hsame⟩ := setThenCall_handler (t := t) hw (show tm₁.watcher = _ from ha)
        (timerSpec tm₁) refused (fun s w => pdWatcherStart epollOps s w env) fun _ => start_handler
      have htm' := (congrFun htimers t).trans (setTimer_timers_self ..)
      dsimp only
      split_ifs
      · exact h
      · exact h.of_some htm ha hw (setTimer_timers_self ..) ha hx hsame
      · exact h.of_some htm ha hw htm' ha hx hsame

theorem Handled.stop (h : Handled s t) (ht : TimersOwn s) (refused : Option Errno) :
    Handled (pdTimerStop s t refused).1 t := by
  unfold pdTimerStop
  cases htm : s.sys.timers t with
  | none => exact h
  | some tm =>
      obtain ⟨a, w, ha, -, hw, -⟩ := ht.owns t tm htm
      let tm₁ : PdTimer ℤ := { tm with active := false }
      obtain ⟨htimers, -⟩ := setThenCall_settings htm (show tm₁.platformData = _ from rfl)
        refused ⟨0, 0, 0, 0⟩ ha fun s w => exec_sameTimers s (.stop w)
      obtain ⟨x, hx, hsame⟩ := setThenCall_handler (t := t) hw (show tm₁.watcher = _ from ha)
        ⟨0, 0, 0, 0⟩ refused (pdWatcherStop epollOps) fun _ => stop_handler
      have htm' := (congrFun htimers t).trans (setTimer_timers_self ..)
      dsimp only
      split_ifs
      · exact h
      · exact h.of_some htm ha hw (setTimer_timers_self ..) ha hx hsame
      · exact h.of_some htm ha hw htm' ha hx hsame

/-- The timerfd of the timer after a call, and whether it is armed. -/
theorem armed_of_settings (htm : s.sys.timers t = some tm) {tm' : PdTimer ℤ}
    (hp : tm'.platformData = tm.platformData) {refused : Option Errno} {its : Itimerspec}
    (htm' : s'.sys.timers t = some tm')
    (hsettings : s'.sys.kernel.timers = resetTimer s t refused its) :
    armed s' t = if settable s t refused then its.armed else armed s t := by
  rw [armed_of_some htm', hsettings, resetTimer, hp, armed_of_some htm, timerfd_of_some htm]
  split_ifs
  · rw [Function.update_self]
    rfl
  · rfl

/-- What `pd_timer_start` does to the timerfd of a timer that is not active. -/
theorem armed_start (htm : s.sys.timers t = some tm) (ha : tm.watcher = some a)
    (hact : tm.active = false) (refused : Option Errno) (env : EpollEnv) :
    armed (pdTimerStart s t refused env).1 t = (settable s t refused || armed s t) := by
  let tm₁ : PdTimer ℤ := { tm with active := true }
  obtain ⟨htimers, hsettings⟩ := setThenCall_settings htm (show tm₁.platformData = _ from rfl)
    refused (timerSpec tm₁) ha fun s w => exec_sameTimers s (.start w env)
  have htm' := (congrFun htimers t).trans (setTimer_timers_self ..)
  have harmed : ∀ s' tm', s'.sys.timers t = some tm' → tm'.platformData = tm.platformData →
      s'.sys.kernel.timers = resetTimer s t refused (timerSpec tm₁) →
      armed s' t = (settable s t refused || armed s t) := by
    intro s' tm' htm' hp hs
    rw [armed_of_settings htm hp htm' hs, timerSpec_armed]
    cases settable s t refused <;> rfl
  unfold pdTimerStart
  rw [htm]
  dsimp only
  rw [hact, if_neg Bool.false_ne_true]
  split_ifs
  · exact harmed _ _ (setTimer_timers_self ..) rfl hsettings
  · exact harmed _ _ htm' rfl hsettings

/-- What `pd_timer_stop` does to the timerfd of an active timer. -/
theorem armed_stop (htm : s.sys.timers t = some tm) (ha : tm.watcher = some a)
    (hact : tm.active = true) (refused : Option Errno) :
    armed (pdTimerStop s t refused).1 t = (!settable s t refused && armed s t) := by
  let tm₁ : PdTimer ℤ := { tm with active := false }
  obtain ⟨htimers, hsettings⟩ := setThenCall_settings htm (show tm₁.platformData = _ from rfl)
    refused ⟨0, 0, 0, 0⟩ ha fun s w => exec_sameTimers s (.stop w)
  have htm' := (congrFun htimers t).trans (setTimer_timers_self ..)
  have harmed : ∀ s' tm', s'.sys.timers t = some tm' → tm'.platformData = tm.platformData →
      s'.sys.kernel.timers = resetTimer s t refused ⟨0, 0, 0, 0⟩ →
      armed s' t = (!settable s t refused && armed s t) := by
    intro s' tm' htm' hp hs
    rw [armed_of_settings htm hp htm' hs]
    cases settable s t refused <;> rfl
  unfold pdTimerStop
  rw [htm]
  dsimp only
  rw [hact, Bool.not_true, if_neg Bool.false_ne_true]
  split_ifs
  · exact harmed _ _ (setTimer_timers_self ..) rfl hsettings
  · exact harmed _ _ htm' rfl hsettings

/-- A start that reaches the kernel succeeds where the watcher can be registered. -/
theorem timerStart_ok (h : Sound eventfd s) (ht : TimersOwn s) (hq : Quiet s t)
    (htm : s.sys.timers t = some tm) (hact : tm.active = false) {refused : Option Errno}
    {env : EpollEnv} (hset : settable s t refused = true) (hreg : registrable s t env = true) :
    (pdTimerStart s t refused env).2 = .ok := by
  obtain ⟨a, w, ha, -, hw, hp⟩ := ht.owns t tm htm
  have hwact := hq tm a w htm ha hw hact
  obtain ⟨d, hd⟩ := attached_iff.1 h.attached
  have hfd : timerfd s t = w.fd := by
    rw [timerfd_of_some htm, hp]
    rfl
  have hopen : s.sys.kernel.isOpen w.fd = true := h.agree.named a w hw
  simp only [registrable, htm, ha, hd, hfd, Option.bind_some, Option.any_some, Bool.and_eq_true,
    Bool.or_eq_true, decide_eq_true_iff, Option.isNone_iff_eq_none] at hreg
  obtain ⟨⟨⟨halloc, hrefused⟩, hnone⟩, hroom⟩ := hreg
  let tm₁ : PdTimer ℤ := { tm with active := true }
  have hok : (epollTimerStart (setTimer s t (some tm₁)) tm₁ refused env).2 = .ok := by
    rw [epollTimerStart_eq,
      setThenCall_of_settable htm (show tm₁.platformData = _ from rfl) _ _ hset
        (show tm₁.watcher = _ from ha)]
    generalize hs' : setKernel _ _ = s'
    have hw' : s'.heap a = some w := hs' ▸ hw
    have hd' : s'.sys.data = some d := hs' ▸ hd
    have hk : s'.sys.kernel = s.sys.kernel.settime (tm.platformData.getD (-1)) (timerSpec tm₁) :=
      hs' ▸ rfl
    have hcode : (epollWatcherRegister s'.sys a { w with active := true } env).code = .ok :=
      register_of_room hd' halloc hrefused (by rw [hk]; exact hopen) (by rw [hk]; exact hnone) hroom
    rw [start_of_ok hw' hwact rfl hcode]
  unfold pdTimerStart
  rw [htm]
  dsimp only
  rw [hact, if_neg Bool.false_ne_true]
  split_ifs with hcode
  · exact absurd hok hcode
  · rfl

/-- No call of `pd_watcher_stop` fails in an orderly run. -/
theorem Sound.stop_ok (h : Sound eventfd s) {w : PdWatcher EpollWatcherData}
    (hw : s.heap a = some w) : (pdWatcherStop epollOps s a).2 = .ok := by
  rcases (stop_cases h.attached hw).2 with
    ⟨-, heq⟩ | ⟨-, -, hok, -⟩ | ⟨-, hstuck, -, -⟩ | ⟨-, -, -, hok, -⟩
  · rw [heq]
  · exact hok
  · exact absurd hstuck (h.not_stuck hw)
  · exact hok

/-- A stop of an active timer succeeds exactly where its timerfd can be set. -/
theorem timerStop_ok_iff (h : Sound eventfd s) (ht : TimersOwn s)
    (htm : s.sys.timers t = some tm) (hact : tm.active = true) (refused : Option Errno) :
    (pdTimerStop s t refused).2 = .ok ↔ settable s t refused = true := by
  obtain ⟨a, w, ha, -, hw, -⟩ := ht.owns t tm htm
  let tm₁ : PdTimer ℤ := { tm with active := false }
  have hcode : (epollTimerStop (setTimer s t (some tm₁)) tm₁ refused).2 = .ok ↔
      settable s t refused = true := by
    rw [epollTimerStop_eq]
    cases hset : settable s t refused with
    | true =>
        rw [setThenCall_of_settable htm (show tm₁.platformData = _ from rfl) _ _ hset
          (show tm₁.watcher = _ from ha)]
        generalize hs' : setKernel _ _ = s'
        have hsound : Sound eventfd s' := hs' ▸ h.congr h.attached rfl rfl rfl rfl rfl
        simpa using hsound.stop_ok (show s'.heap a = some w from hs' ▸ hw)
    | false =>
        obtain ⟨hcode, -⟩ := setThenCall_of_not_settable htm
          (show tm₁.platformData = _ from rfl) ⟨0, 0, 0, 0⟩ (pdWatcherStop epollOps) hset
        simp [hcode]
  rw [← hcode]
  unfold pdTimerStop
  rw [htm]
  dsimp only
  rw [hact, Bool.not_true, if_neg Bool.false_ne_true]
  split_ifs with hne
  · exact iff_of_false hne hne
  · exact iff_of_true rfl (not_not.1 hne)

theorem exists_of_active (ht : TimersOwn s) (hact : active s t = true) :
    ∃ tm a, s.sys.timers t = some tm ∧ tm.watcher = some a ∧ tm.active = true := by
  cases htm : s.sys.timers t with
  | none => exact nomatch (active_of_none htm).symm.trans hact
  | some tm =>
      obtain ⟨a, -, ha, -⟩ := ht.owns t tm htm
      exact ⟨tm, a, rfl, ha, (active_of_some htm).symm.trans hact⟩

/-- A start keeps the timerfd in step with `active`, unless it arms the timerfd and fails. -/
theorem Watched.Armed.start (h : k.Armed eventfd t) (env : TimerCallEnv) :
    (active k.world t = true ∧ (epollTimers t).start k env = (k, .ok)) ∨
    (active k.world t = false ∧ ((epollTimers t).start k env).2 = .ok ∧
      ((epollTimers t).start k env).1.Armed eventfd t ∧
      active ((epollTimers t).start k env).1.world t = true) ∨
    (active k.world t = false ∧ ((epollTimers t).start k env).2 ≠ .ok ∧
      ((timerGauge t).startable k env = true → ((epollTimers t).start k env).1.Armed eventfd t ∧
        active ((epollTimers t).start k env).1.world t = false)) := by
  have hinv := ((epollTimers_keeps eventfd t).start k env h.inv).1
  have hhandled := h.handled.start h.inv.timers env.refused env.register
  rcases (timerStart_cases h.inv.sound h.inv.timers h.inv.quiet env.refused env.register).2 with
    ⟨hact, heq⟩ | ⟨hact, hok, hact', hset⟩ | ⟨hact, hne, hact'⟩
  · refine .inl ⟨hact, ?_⟩
    simp [epollTimers, heq, hact]
  · refine .inr (.inl ⟨hact, hok, ⟨hinv, ?_, fun hno => ?_, hhandled⟩, hact'⟩)
    on_goal 2 => exact absurd (hno.symm.trans hact') Bool.false_ne_true
    cases htm : k.world.sys.timers t with
    | none => simp [pdTimerStart, htm] at hok
    | some tm =>
        obtain ⟨a, -, ha, -⟩ := h.inv.timers.owns t tm htm
        rw [active_of_some htm] at hact
        refine (armed_start htm ha hact env.refused env.register).trans ?_
        rw [hset, Bool.true_or]
        exact hact'.symm
  · refine .inr (.inr ⟨hact, hne, fun hstart => ⟨⟨hinv, ?_, fun _ => ?_, hhandled⟩, hact'⟩⟩)
    · have harmed : armed k.world t = false := h.agrees.trans hact
      refine Eq.trans ?_ hact'.symm
      change armed (pdTimerStart k.world t env.refused env.register).1 t = false
      cases htm : k.world.sys.timers t with
      | none =>
          rw [pdTimerStart, htm]
          exact harmed
      | some tm =>
          obtain ⟨a, -, ha, -⟩ := h.inv.timers.owns t tm htm
          have hoff : tm.active = false := (active_of_some htm).symm.trans hact
          rw [armed_start htm ha hoff, harmed, Bool.or_false]
          by_contra hset
          rw [Bool.not_eq_false] at hset
          -- the watcher could be registered, so the start has not failed
          refine hne (timerStart_ok h.inv.sound h.inv.timers h.inv.quiet htm hoff hset ?_)
          simpa [timerGauge, hact, hset] using hstart
    · change (if (!active k.world t && settable k.world t env.refused) = true then none
        else k.ticks) = none
      rw [h.ticks hact, ite_self]

/-- A stop that does not reach the timerfd leaves everything as it is. -/
theorem Watched.Armed.stop (h : k.Armed eventfd t) (env : TimerCallEnv) :
    ((epollTimers t).stop k env).1.Armed eventfd t ∧
    ((active ((epollTimers t).stop k env).1.world t = active k.world t ∧
      armed ((epollTimers t).stop k env).1.world t = armed k.world t) ∨
    (settable k.world t env.refused = true ∧
      active ((epollTimers t).stop k env).1.world t = false)) := by
  have hinv := ((epollTimers_keeps eventfd t).stop k env h.inv).1
  have hhandled := h.handled.stop h.inv.timers env.refused
  have hticks : k.ticks = none → ((epollTimers t).stop k env).1.ticks = none := by
    intro hnone
    change (if (active k.world t && settable k.world t env.refused) = true then none
      else k.ticks) = none
    rw [hnone, ite_self]
  cases hact : active k.world t with
  | false =>
      have heq : (pdTimerStop k.world t env.refused).1 = k.world := by
        unfold pdTimerStop
        cases htm : k.world.sys.timers t with
        | none => rfl
        | some tm => simp [(active_of_some htm).symm.trans hact]
      have hact' : active ((epollTimers t).stop k env).1.world t = false :=
        (congrArg (active · t) heq).trans hact
      have harmed' : armed ((epollTimers t).stop k env).1.world t = armed k.world t :=
        congrArg (armed · t) heq
      refine ⟨⟨hinv, ?_, fun _ => hticks (h.ticks hact), hhandled⟩, .inl ⟨hact', harmed'⟩⟩
      rw [harmed', hact', h.agrees, hact]
  | true =>
      obtain ⟨tm, a, htm, ha, hon⟩ := exists_of_active h.inv.timers hact
      have harmed' : armed ((epollTimers t).stop k env).1.world t =
          (!settable k.world t env.refused && armed k.world t) :=
        armed_stop htm ha hon env.refused
      have hiff := timerStop_ok_iff h.inv.sound h.inv.timers htm hon env.refused
      rw [h.agrees, hact, Bool.and_true] at harmed'
      cases hset : settable k.world t env.refused with
      | true =>
          have hact' := (epollTimers_keeps eventfd t).stop_ok k env h.inv (hiff.2 hset)
          refine ⟨⟨hinv, ?_, fun _ => ?_, hhandled⟩, .inr ⟨rfl, hact'⟩⟩
          · rw [harmed', hset]
            exact hact'.symm
          · change (if (active k.world t && settable k.world t env.refused) = true then none
              else k.ticks) = none
            rw [hact, hset]
            rfl
      | false =>
          have hne : (pdTimerStop k.world t env.refused).2 ≠ .ok := fun hok =>
            nomatch hset.symm.trans (hiff.1 hok)
          have hact' := (((epollTimers_keeps eventfd t).stop k env h.inv).2 hne).1
          rw [hset] at harmed'
          refine ⟨⟨hinv, ?_, fun hno => ?_, hhandled⟩, .inl ⟨hact'.trans hact, ?_⟩⟩
          · exact harmed'.trans (hact'.trans hact).symm
          · exact nomatch (hact'.trans hact).symm.trans hno
          · exact harmed'.trans (h.agrees.trans hact).symm

/-- epoll fits its gauge. -/
theorem timerGauge_fits (eventfd : ℤ) (t : Addr) :
    (timerGauge t).Fits (epollTimers t) (Watched.Armed eventfd t) where
  inactive k h hact := by
    refine ⟨h.agrees.trans hact, ?_⟩
    refine Set.eq_empty_of_forall_notMem fun n hn => ?_
    exact nomatch (h.ticks hact).symm.trans hn
  active k h hact := .inl (h.agrees.trans hact)
  start k env h := by
    rcases h.start env with hsame | ⟨hact, hok, harmed, hact'⟩ | hfail
    · exact .inl hsame
    · exact .inr (.inl ⟨hact, hok, harmed, hact', harmed.agrees.trans hact'⟩)
    · exact .inr (.inr hfail)
  stop k env h := h.stop env
  expire k n k' h hrep hk := by
    obtain ⟨hinv, hact, -⟩ := h.inv.expire hk
    obtain ⟨its, hits, hk⟩ := Option.bind_eq_some_iff.1 hk
    obtain ⟨harmed, hk⟩ := Option.ite_none_left_eq_some.1 hk
    have hrep' : its.repeats = true := by
      have hany : (k.world.sys.kernel.timers (timerfd k.world t)).any Itimerspec.repeats = true :=
        hrep
      rwa [hits] at hany
    rw [if_neg (by simpa [Itimerspec.repeats, or_iff_not_imp_left] using hrep')] at hk
    obtain rfl := Option.some.inj hk
    have hon : active k.world t = true := by
      rw [← h.agrees, armed, hits]
      simpa [Itimerspec.armed, or_iff_not_imp_left] using harmed
    exact ⟨⟨hinv, h.agrees, fun hno => (nomatch hon.symm.trans hno), h.handled⟩, rfl, rfl⟩
  report k k' n h hr := by
    obtain ⟨rfl, hn⟩ := h.inv.report hr
    exact ⟨h, hn.1, hn.1⟩
  invokes k h hact := by
    obtain ⟨tm, a, htm, ha, -⟩ := exists_of_active h.inv.timers hact
    obtain ⟨b, w, hb, -, hw, -⟩ := h.inv.timers.owns t tm htm
    obtain rfl := Option.some.inj (ha.symm.trans hb)
    obtain ⟨hcallback, huser⟩ := Prod.mk.inj (h.handled tm a w htm ha hw)
    simp [epollTimers, Watched.invokes, htm, ha, hw, hcallback, huser]
  acknowledge k _ h hact _ := by
    have hinv := ((epollTimers_keeps eventfd t).acknowledge k false h.inv hact).1
    exact ⟨⟨hinv, h.agrees, fun _ => rfl, h.handled⟩, hact, h.agrees.trans hact⟩

/-- What a successful `epoll_timer_create` has done. -/
theorem epollTimerCreate_new {u : Addr} {tm₀ : PdTimer ℤ} {env : TimerEnv}
    (hok : (epollTimerCreate s u tm₀ env).2.2 = .ok) :
    ∃ fd a r tm, s.sys.kernel.isOpen fd = false ∧
      pdWatcherCreate epollOps (openFd s fd) fd .read (some .timerfd) u env.watcher = (r, some a) ∧
      tm.active = tm₀.active ∧ tm.watcher = some a ∧ tm.platformData = some fd ∧
      epollTimerCreate s u tm₀ env = ((pdWatcherStop epollOps r a).1, tm, .ok) := by
  unfold epollTimerCreate at hok ⊢
  cases hfd : timerfdCreate s env.timerfd with
  | none => simp [hfd] at hok
  | some fd =>
      have hclosed : s.sys.kernel.isOpen fd = false := by
        rw [timerfdCreate, Option.filter_eq_some_iff] at hfd
        exact (of_decide_eq_true hfd.2).2
      cases halloc : env.dataAlloc with
      | false => simp [hfd, halloc] at hok
      | true =>
          cases hmade : pdWatcherCreate epollOps (openFd s fd) fd .read (some .timerfd) u
              env.watcher with
          | mk r made =>
              cases made with
              | none => simp [hfd, halloc, hmade] at hok
              | some a =>
                  exact ⟨fd, a, r,
                    { tm₀ with watcher := some a, ownsWatcher := true, platformData := some fd },
                    hclosed, hmade, rfl, rfl, rfl, by simp [hmade]⟩

/-- What a successful `pd_timer_create` has done. -/
theorem timerCreate_new {timeoutMs intervalMs : UInt64} {callback : Option Callback}
    {userData : Addr} {env : TimerEnv}
    (hc : pdTimerCreate s timeoutMs intervalMs callback userData env = (s', some t)) :
    ∃ fd a r tm, s.sys.kernel.isOpen fd = false ∧
      pdWatcherCreate epollOps (openFd s fd) fd .read (some .timerfd) t env.watcher = (r, some a) ∧
      tm.active = false ∧ tm.watcher = some a ∧ tm.platformData = some fd ∧
      s' = setTimer (pdWatcherStop epollOps r a).1 t (some tm) := by
  unfold pdTimerCreate at hc
  cases callback with
  | none => exact nomatch hc
  | some callback =>
      cases hcalloc : callocTimer s env.calloc with
      | none =>
          rw [hcalloc] at hc
          exact nomatch hc
      | some u =>
          rw [hcalloc] at hc
          dsimp only at hc
          split_ifs at hc with hcode
          · exact nomatch hc
          · obtain ⟨fd, a, r, tm, hclosed, hmade, hact, ha, hp, heq⟩ :=
              epollTimerCreate_new (not_not.1 hcode)
            rw [heq] at hc
            obtain ⟨rfl, hu⟩ := Prod.mk.inj hc
            obtain rfl := Option.some.inj hu
            exact ⟨fd, a, r, tm, hclosed, hmade, hact, ha, hp, rfl⟩

/-- A new timer is not active, and its timerfd not armed. -/
theorem TimerCreated.armed (h : TimerCreated eventfd t k) :
    k.Armed eventfd t ∧ active k.world t = false := by
  have hinv := h.inv
  obtain ⟨hticks, s, timeoutMs, intervalMs, callback, userData, env, hr, hcreate⟩ := h
  obtain ⟨fd, a, r, tm, hclosed, hmade, hinactive, ha, hp, hworld⟩ := timerCreate_new hcreate
  have htm : k.world.sys.timers t = some tm := by
    rw [hworld]
    exact setTimer_timers_self ..
  have hact : active k.world t = false := (active_of_some htm).trans hinactive
  refine ⟨⟨hinv, ?_, fun _ => hticks, ?_⟩, hact⟩
  · have hcreated := exec_sameTimers (openFd s fd) (.create fd .read (some .timerfd) t env.watcher)
    have hstopped := exec_sameTimers r (.stop a)
    have hsettings : k.world.sys.kernel.timers fd = none := by
      have hr' : r = ((openFd s fd).exec epollOps
          (.create fd .read (some .timerfd) t env.watcher)).1 := (congrArg Prod.fst hmade).symm
      rw [hworld]
      refine (congrFun hstopped.settings fd).trans ?_
      rw [hr']
      exact (congrFun hcreated.settings fd).trans (fresh_of_reach hr fd hclosed)
    rw [hact, armed_of_some htm, hp, Option.getD_some, hsettings]
    rfl
  · obtain ⟨x, hx, hhandler⟩ := create_handler (congrArg Prod.snd hmade)
    rw [hmade] at hx
    obtain ⟨y, hy, hsame⟩ : ∃ y, (pdWatcherStop epollOps r a).1.heap a = some y ∧
        y.handler = x.handler := stop_handler hx
    intro tm₂ b w htm₂ hb hw
    obtain rfl := Option.some.inj (htm.symm.trans htm₂)
    obtain rfl := Option.some.inj (ha.symm.trans hb)
    have hw' : (pdWatcherStop epollOps r a).1.heap a = some w := by
      rw [hworld] at hw
      exact hw
    obtain rfl := Option.some.inj (hy.symm.trans hw')
    exact hsame.trans hhandler

end

end Epoll
end PollDancer
