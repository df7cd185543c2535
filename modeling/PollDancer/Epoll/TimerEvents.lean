/-
# A timer of epoll in the loop

A timerfd counts expirations until it is read, and a `timerfd_settime` that the kernel
accepts sets the count to zero.  The wait reports the timerfd while it is a member and the
count is not zero; the loop then invokes `timerfd_callback`, which reads the timerfd and
invokes the callback of the user whether there was something to read or not.

A timer that is not active has a stopped watcher (`Quiet`), whose timerfd is no member.
-/
import PollDancer.Epoll.Agreement
import PollDancer.TimerLoop

namespace PollDancer
namespace Epoll

open Library

/-- A loop with the expiration of the timer that has not been read. -/
structure Watched where
  world : EpollWorld
  ticks : Option ℕ

/-- The timerfd of a timer. -/
def timerfd (s : EpollWorld) (t : Addr) : ℤ := ((s.sys.timers t).bind (·.platformData)).getD (-1)

/-- Is the timer active? -/
def active (s : EpollWorld) (t : Addr) : Bool := (s.sys.timers t).any (·.active)

/-- Would the kernel accept a `timerfd_settime` on the timerfd? -/
def settable (s : EpollWorld) (t : Addr) (refused : Option Errno) : Bool :=
  decide (0 ≤ timerfd s t) && refused.isNone && s.sys.kernel.isOpen (timerfd s t)

/-- The timer expires, and is disarmed if it does not repeat. -/
def Watched.expire (k : Watched) (t : Addr) (n : ℕ) : Option Watched := do
  let its ← k.world.sys.kernel.timers (timerfd k.world t)
  if its.valueSec = 0 ∧ its.valueNsec = 0 then none
  else if its.intervalSec = 0 ∧ its.intervalNsec = 0 then
    some ⟨setKernel k.world (k.world.sys.kernel.settime (timerfd k.world t) ⟨0, 0, 0, 0⟩), some n⟩
  else some { k with ticks := some n }

/-- The wait reports the timerfd, for the internal watcher. -/
def Watched.report (k : Watched) (t : Addr) : Option (Watched × ℕ) := do
  let n ← k.ticks
  let m ← k.world.sys.kernel.interest (timerfd k.world t)
  if (k.world.sys.timers t).bind (·.watcher) = some m.ptr then some (k, n) else none

/-- Does the event lead to `timerfd_callback` with the timer? -/
def Watched.invokes (k : Watched) (t : Addr) : Bool :=
  (((k.world.sys.timers t).bind (·.watcher)).bind k.world.heap).any fun w =>
    w.callback == some .timerfd && w.userData == t

/-- What the environment answers to `pd_timer_start`.  `pd_timer_stop` has the first
answer only. -/
structure TimerCallEnv where
  refused : Option Errno
  register : EpollEnv
  deriving DecidableEq, Repr

/-- What epoll does for the timer `t`. -/
def epollTimers (t : Addr) : TimerBackend Watched TimerCallEnv where
  start k env :=
    let r := pdTimerStart k.world t env.refused env.register
    let set := !active k.world t && settable k.world t env.refused
    (⟨r.1, if set then none else k.ticks⟩, r.2)
  stop k env :=
    let r := pdTimerStop k.world t env.refused
    let set := active k.world t && settable k.world t env.refused
    (⟨r.1, if set then none else k.ticks⟩, r.2)
  expire k n := k.expire t n
  report k := k.report t
  invokes k := k.invokes t
  acknowledge k _ := { k with ticks := none }

/-- `pd_timer_create` has just returned the timer, on a loop that has been used in the
orderly way. -/
def TimerCreated (eventfd : ℤ) (t : Addr) (k : Watched) : Prop :=
  k.ticks = none ∧ ∃ s timeoutMs intervalMs callback userData env,
    (timerRuns eventfd).Reach Orderly s ∧
      pdTimerCreate s timeoutMs intervalMs callback userData env = (k.world, some t)

variable {eventfd : ℤ} {t a : Addr} {k : Watched} {s s' : EpollWorld} {tm : PdTimer ℤ}

/-- If the timer is not active, neither is its watcher. -/
def Quiet (s : EpollWorld) (t : Addr) : Prop :=
  ∀ tm a w, s.sys.timers t = some tm → tm.watcher = some a → s.heap a = some w →
    tm.active = false → w.active = false

theorem active_of_some (h : s.sys.timers t = some tm) : active s t = tm.active := by
  rw [active, h]
  rfl

theorem active_of_none (h : s.sys.timers t = none) : active s t = false := by
  rw [active, h]
  rfl

theorem timerfd_of_some (h : s.sys.timers t = some tm) :
    timerfd s t = tm.platformData.getD (-1) := by
  rw [timerfd, h]
  rfl

/-- What an accepted `timerfd_settime` did. -/
theorem settime_eq_ok {fd : ℤ} {its : Itimerspec} {refused : Option Errno}
    (h : timerfdSettime s fd its refused = .ok s') :
    refused = none ∧ s.sys.kernel.isOpen fd = true ∧
      s' = setKernel s (s.sys.kernel.settime fd its) := by
  unfold timerfdSettime at h
  split at h
  · exact nomatch h
  · split_ifs at h with hopen
    exact ⟨rfl, hopen, (Except.ok.inj h).symm⟩

/-- What `epoll_timer_start` can do to a stopped watcher: fail and leave the watchers
alone, or set the timerfd. -/
theorem epollTimerStart_cases (tm : PdTimer ℤ) {w : PdWatcher EpollWatcherData}
    (hs : Attached s) (hwatch : tm.watcher = some a) (hw : s.heap a = some w)
    (hact : w.active = false) (refused : Option Errno) (env : EpollEnv) :
    (epollTimerStart s tm refused env).1.sys.timers = s.sys.timers ∧
    (((epollTimerStart s tm refused env).2 ≠ .ok ∧
      (epollTimerStart s tm refused env).1.heap = s.heap) ∨
    ((epollTimerStart s tm refused env).2 = .ok ∧ 0 ≤ tm.platformData.getD (-1) ∧
      refused = none ∧ s.sys.kernel.isOpen (tm.platformData.getD (-1)) = true)) := by
  unfold epollTimerStart
  dsimp only
  split_ifs with hfd
  · exact ⟨rfl, Or.inl ⟨by simp, rfl⟩⟩
  · cases hset : timerfdSettime s (tm.platformData.getD (-1)) (timerSpec tm) refused with
    | error e => exact ⟨rfl, Or.inl ⟨by simp, rfl⟩⟩
    | ok s' =>
        obtain ⟨hrefused, hopen, rfl⟩ := settime_eq_ok hset
        rw [hwatch]
        dsimp only
        generalize hk : setKernel s _ = s'
        have hs' : Attached s' := hk ▸ hs
        have hw' : s'.heap a = some w := hk ▸ hw
        have htimers : s'.sys.timers = s.sys.timers := hk ▸ rfl
        have hheap : s'.heap = s.heap := hk ▸ rfl
        rcases (start_cases env hs' hw').2 with
          ⟨hyes, -⟩ | ⟨-, -, hne, hv⟩ | ⟨-, -, hne, hv⟩ | ⟨-, hok, -, -, hv⟩
        · exact nomatch hact.symm.trans hyes
        · exact ⟨(congrArg View.timers hv).trans htimers,
            Or.inl ⟨hne, (congrArg View.heap hv).trans hheap⟩⟩
        · exact ⟨(congrArg View.timers hv).trans htimers,
            Or.inl ⟨hne, (congrArg View.heap hv).trans hheap⟩⟩
        · exact ⟨(congrArg View.timers hv).trans htimers,
            Or.inr ⟨hok, Int.not_lt.1 hfd, hrefused, hopen⟩⟩

/-- What `epoll_timer_stop` can do: fail, or stop the watcher. -/
theorem epollTimerStop_cases (tm : PdTimer ℤ) {w : PdWatcher EpollWatcherData}
    (h : Sound eventfd s) (hwatch : tm.watcher = some a) (hw : s.heap a = some w)
    (refused : Option Errno) :
    (epollTimerStop s tm refused).1.sys.timers = s.sys.timers ∧
    ((epollTimerStop s tm refused).2 ≠ .ok ∨
    ((epollTimerStop s tm refused).2 = .ok ∧
      ∃ x, (epollTimerStop s tm refused).1.heap a = some x ∧ x.active = false)) := by
  unfold epollTimerStop
  dsimp only
  split_ifs
  · exact ⟨rfl, Or.inl (by simp)⟩
  · cases hset : timerfdSettime s (tm.platformData.getD (-1)) ⟨0, 0, 0, 0⟩ refused with
    | error e => exact ⟨rfl, Or.inl (by simp)⟩
    | ok s' =>
        obtain ⟨-, -, rfl⟩ := settime_eq_ok hset
        rw [hwatch]
        dsimp only
        generalize hk : setKernel s _ = s'
        have hs' : Sound eventfd s' := hk ▸ h.congr h.attached rfl rfl rfl rfl rfl
        have htimers : s'.sys.timers = s.sys.timers := hk ▸ rfl
        obtain ⟨-, hf, x, hx, -, hact⟩ := hs'.stop (show s'.heap a = some w from hk ▸ hw)
        refine ⟨hf.timers_eq.trans htimers, ?_⟩
        by_cases hok : (pdWatcherStop epollOps s' a).2 = .ok
        · exact Or.inr ⟨hok, x, hx, hact⟩
        · exact Or.inl hok

theorem Quiet.of_some (htm : s.sys.timers t = some tm)
    (h : tm.active = false → ∀ a w, tm.watcher = some a → s.heap a = some w → w.active = false) :
    Quiet s t := by
  intro tm' a w htm' ha hw hact
  obtain rfl := Option.some.inj (htm.symm.trans htm')
  exact h hact a w ha hw

/-- What `pd_timer_start` can do: nothing, to a timer that is active; set the timerfd; fail
and leave the timer quiet. -/
theorem timerStart_cases (h : Sound eventfd s) (ht : TimersOwn s) (hq : Quiet s t)
    (refused : Option Errno) (env : EpollEnv) :
    Quiet (pdTimerStart s t refused env).1 t ∧
    ((active s t = true ∧ pdTimerStart s t refused env = (s, .ok)) ∨
    (active s t = false ∧ (pdTimerStart s t refused env).2 = .ok ∧
      active (pdTimerStart s t refused env).1 t = true ∧ settable s t refused = true) ∨
    (active s t = false ∧ (pdTimerStart s t refused env).2 ≠ .ok ∧
      active (pdTimerStart s t refused env).1 t = false)) := by
  unfold pdTimerStart
  cases htm : s.sys.timers t with
  | none => exact ⟨hq, Or.inr (Or.inr ⟨active_of_none htm, by simp, active_of_none htm⟩)⟩
  | some tm =>
      obtain ⟨a, w, ha, -, hw, -⟩ := ht.owns t tm htm
      rw [active_of_some htm]
      dsimp only
      split_ifs with hact hcode
      · exact ⟨hq, Or.inl ⟨hact, rfl⟩⟩
      · -- the call of the backend has failed, and has left the watcher alone
        have hact' := Bool.eq_false_iff.2 hact
        have hwact := hq tm a w htm ha hw hact'
        obtain ⟨-, ⟨-, hheap⟩ | ⟨hok, -⟩⟩ := epollTimerStart_cases
          (s := setTimer s t (some { tm with active := true })) { tm with active := true }
          h.attached ha hw hwact refused env
        · refine ⟨.of_some (setTimer_timers_self ..) fun _ b x hb hx => ?_,
            Or.inr (Or.inr ⟨hact', hcode, active_of_some (setTimer_timers_self ..)⟩)⟩
          obtain rfl := Option.some.inj (ha.symm.trans hb)
          obtain rfl := Option.some.inj (hw.symm.trans ((congrFun hheap a).symm.trans hx))
          exact hwact
        · exact absurd hok hcode
      · have hact' := Bool.eq_false_iff.2 hact
        obtain ⟨htimers, ⟨hne, -⟩ | ⟨-, hfd, hrefused, hopen⟩⟩ := epollTimerStart_cases
          (s := setTimer s t (some { tm with active := true })) { tm with active := true }
          h.attached ha hw (hq tm a w htm ha hw hact') refused env
        · exact absurd hne hcode
        · have htm' := (congrFun htimers t).trans (setTimer_timers_self ..)
          refine ⟨.of_some htm' fun hno => (nomatch hno),
            Or.inr (Or.inl ⟨hact', rfl, active_of_some htm', ?_⟩)⟩
          have hopen' : s.sys.kernel.isOpen (tm.platformData.getD (-1)) = true := hopen
          simp only [settable, timerfd_of_some htm, hrefused, hopen', Option.isNone_none,
            Bool.and_true, decide_eq_true_eq]
          exact hfd

/-- What `pd_timer_stop` can do: stop the timer and its watcher, or fail and leave the
timer active. -/
theorem timerStop_cases (h : Sound eventfd s) (ht : TimersOwn s) (hq : Quiet s t)
    (refused : Option Errno) :
    Quiet (pdTimerStop s t refused).1 t ∧
    (((pdTimerStop s t refused).2 = .ok ∧ active (pdTimerStop s t refused).1 t = false) ∨
    ((pdTimerStop s t refused).2 ≠ .ok ∧
      active (pdTimerStop s t refused).1 t = active s t)) := by
  unfold pdTimerStop
  cases htm : s.sys.timers t with
  | none => exact ⟨hq, Or.inr ⟨by simp, rfl⟩⟩
  | some tm =>
      obtain ⟨a, w, ha, -, hw, -⟩ := ht.owns t tm htm
      rw [active_of_some htm]
      dsimp only
      split_ifs with hact hcode
      · exact ⟨hq, Or.inl ⟨rfl, (active_of_some htm).trans (by simpa using hact)⟩⟩
      · -- the call of the backend has failed: the timer is active again
        have hact' : tm.active = true := by simpa using hact
        exact ⟨.of_some (setTimer_timers_self ..) fun hno => (nomatch hno),
          Or.inr ⟨hcode, (active_of_some (setTimer_timers_self ..)).trans hact'.symm⟩⟩
      · have hs : Sound eventfd (setTimer s t (some { tm with active := false })) :=
          h.congr h.attached rfl rfl rfl rfl rfl
        obtain ⟨htimers, hne | ⟨-, x, hx, hxact⟩⟩ :=
          epollTimerStop_cases { tm with active := false } hs ha hw refused
        · exact absurd hne hcode
        · have htm' := (congrFun htimers t).trans (setTimer_timers_self ..)
          refine ⟨.of_some htm' fun _ b y hb hy => ?_, Or.inl ⟨rfl, active_of_some htm'⟩⟩
          obtain rfl := Option.some.inj (ha.symm.trans hb)
          obtain rfl := Option.some.inj (hx.symm.trans hy)
          exact hxact

/-- What the calls keep. -/
structure Watched.Inv (eventfd : ℤ) (t : Addr) (k : Watched) : Prop where
  sound : Sound eventfd k.world
  timers : TimersOwn k.world
  quiet : Quiet k.world t

/-- The expiration that may still be reported. -/
def Watched.pending (t : Addr) (k : Watched) : Set ℕ :=
  {n | active k.world t = true ∧ k.ticks = some n}

/-- Of an active timer no more is pending as long as the kernel counts no expiration. -/
theorem pending_subset {k k' : Watched} (hact : active k.world t = true)
    (hticks : ∀ n, k'.ticks = some n → k.ticks = some n) : k'.pending t ⊆ k.pending t :=
  fun n hn => ⟨hact, hticks n hn.2⟩

theorem Watched.Inv.report (h : k.Inv eventfd t) {k' : Watched} {n : ℕ}
    (hr : k.report t = some (k', n)) : k' = k ∧ n ∈ k.pending t := by
  obtain ⟨m, hm, hr⟩ := Option.bind_eq_some_iff.1 hr
  obtain ⟨ev, hev, hr⟩ := Option.bind_eq_some_iff.1 hr
  obtain ⟨hptr, hr⟩ := Option.ite_none_right_eq_some.1 hr
  obtain ⟨rfl, rfl⟩ := Prod.mk.inj (Option.some.inj hr)
  refine ⟨rfl, ?_, hm⟩
  obtain ⟨tm, htm, hwatch⟩ := Option.bind_eq_some_iff.1 hptr
  obtain ⟨a, w, ha, -, hw, hp⟩ := h.timers.owns t tm htm
  obtain rfl := Option.some.inj (hwatch.symm.trans ha)
  rw [active_of_some htm]
  by_contra hact
  -- the watcher of an inactive timer is stopped, and its timerfd is no member
  have hwact := h.quiet tm ev.ptr w htm hwatch hw (Bool.eq_false_iff.2 hact)
  rw [timerfd_of_some htm, hp] at hev
  exact h.sound.not_taken_of_inactive hw hwact ⟨ev, hev, h.sound.owned.ne_null _ w hw⟩

theorem Watched.Inv.expire (h : k.Inv eventfd t) {k' : Watched} {n : ℕ}
    (hk : k.expire t n = some k') :
    k'.Inv eventfd t ∧ active k'.world t = active k.world t ∧
      k'.pending t ⊆ insert n (k.pending t) := by
  obtain ⟨its, -, hk⟩ := Option.bind_eq_some_iff.1 hk
  obtain ⟨-, hk⟩ := Option.ite_none_left_eq_some.1 hk
  split_ifs at hk
  · obtain rfl := Option.some.inj hk
    exact ⟨⟨h.sound.congr h.sound.attached rfl rfl rfl rfl rfl,
      ⟨h.timers.owns, h.timers.injective⟩, h.quiet⟩, rfl,
      fun m hm => Or.inl (Option.some.inj hm.2).symm⟩
  · obtain rfl := Option.some.inj hk
    exact ⟨⟨h.sound, h.timers, h.quiet⟩, rfl, fun m hm => Or.inl (Option.some.inj hm.2).symm⟩

/-- epoll keeps its timers. -/
theorem epollTimers_keeps (eventfd : ℤ) (t : Addr) :
    (epollTimers t).Keeps (Watched.Inv eventfd t) (fun k => active k.world t)
      (Watched.pending t) where
  inactive k _ hact :=
    Set.eq_empty_of_forall_notMem fun n hn => nomatch hact.symm.trans hn.1
  start k env h := by
    obtain ⟨hs, ht, -⟩ :=
      timerCall_sound (.timerStart t env.refused env.register) trivial h.sound h.timers
    obtain ⟨hq, hcases⟩ := timerStart_cases h.sound h.timers h.quiet env.refused env.register
    refine ⟨⟨hs, ht, hq⟩, ?_⟩
    rcases hcases with ⟨hact, heq⟩ | ⟨hact, hok, -, hset⟩ | ⟨hact, hne, hact'⟩
    · refine ⟨pending_subset hact fun n hn => ?_, fun hne => ?_⟩
      · simpa [epollTimers, hact] using hn
      · exact absurd (congrArg Prod.snd heq) hne
    · refine ⟨fun n hn => ?_, fun hne => absurd hok hne⟩
      have hticks := hn.2
      simp [epollTimers, hact, hset] at hticks
    · exact ⟨fun n hn => (nomatch hact'.symm.trans hn.1), fun _ => hact'.trans hact.symm⟩
  start_ok k env h hok := by
    obtain ⟨-, ⟨hact, heq⟩ | ⟨-, -, hact, -⟩ | ⟨-, hne, -⟩⟩ :=
      timerStart_cases h.sound h.timers h.quiet env.refused env.register
    · exact (congrArg (active · t) (congrArg Prod.fst heq)).trans hact
    · exact hact
    · exact absurd hok hne
  stop k env h := by
    obtain ⟨hs, ht, -⟩ := timerCall_sound (.timerStop t env.refused) trivial h.sound h.timers
    obtain ⟨hq, hcases⟩ := timerStop_cases h.sound h.timers h.quiet env.refused
    refine ⟨⟨hs, ht, hq⟩, fun hne => ?_⟩
    rcases hcases with ⟨hok, -⟩ | ⟨-, hact⟩
    · exact absurd hok hne
    · refine ⟨hact, fun n hn => ⟨hact.symm.trans hn.1, ?_⟩⟩
      have hticks : (if (active k.world t && settable k.world t env.refused) = true then none
        else k.ticks) = some n := hn.2
      split_ifs at hticks
      exact hticks
  stop_ok k env h hok := by
    obtain ⟨-, ⟨-, hact⟩ | ⟨hne, -⟩⟩ := timerStop_cases h.sound h.timers h.quiet env.refused
    · exact hact
    · exact absurd hok hne
  expire k n k' h hk := h.expire hk
  report k k' n h hr := by
    obtain ⟨rfl, hn⟩ := h.report hr
    exact ⟨h, rfl, hn, subset_rfl⟩
  acknowledge k _ h hact := ⟨⟨h.sound, h.timers, h.quiet⟩, hact, fun n hn => nomatch hn.2⟩

/-- The watcher of a new timer is stopped. -/
theorem Sound.quiet_create (h : Sound eventfd s) {timeoutMs intervalMs : UInt64}
    {callback : Option Callback} {userData : Addr} {env : TimerEnv}
    (hc : pdTimerCreate s timeoutMs intervalMs callback userData env = (s', some t)) :
    Quiet s' t := by
  unfold pdTimerCreate at hc
  cases callback with
  | none => exact nomatch hc
  | some callback =>
      cases hcalloc : callocTimer s env.calloc with
      | none =>
          rw [hcalloc] at hc
          exact nomatch hc
      | some u =>
          rw [hcalloc] at hc
          dsimp only at hc
          split_ifs at hc with hcode
          · exact nomatch hc
          · obtain ⟨rfl, hu⟩ := Prod.mk.inj hc
            obtain rfl := Option.some.inj hu
            obtain ⟨-, -, ⟨hne, -⟩ | ⟨a, x, -, -, hact, hwatch, -, -, hheap⟩⟩ := h.timerCreate u
              { watcher := none, timeoutMs, intervalMs, callback, userData, active := false,
                ownsWatcher := false, platformData := none } env
            · exact absurd hne hcode
            · refine .of_some (setTimer_timers_self ..) fun _ b y hb hy => ?_
              obtain rfl := Option.some.inj (hwatch.symm.trans hb)
              have hx := (congrFun hheap a).trans (Function.update_self ..)
              obtain rfl := Option.some.inj (hx.symm.trans hy)
              exact hact

theorem TimerCreated.inv (h : TimerCreated eventfd t k) : k.Inv eventfd t := by
  obtain ⟨-, s, timeoutMs, intervalMs, callback, userData, env, hr, hcreate⟩ := h
  obtain ⟨hs, ht⟩ := sound_of_reach hr
  obtain ⟨hs', ht', -⟩ := timerCreate_sound timeoutMs intervalMs callback userData env hs ht
  rw [hcreate] at hs' ht'
  exact ⟨hs', ht', hs.quiet_create hcreate⟩

end Epoll
end PollDancer
