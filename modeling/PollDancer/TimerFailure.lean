/-
# Starts and stops of timers that fail

`pd_timer_start` and `pd_timer_stop` take two steps that the kernel sees, or write a field of
the backend before the only one, and on failure they restore `active` and nothing else.
`epoll_timer_start` has armed the timerfd when `pd_watcher_start` fails, `epoll_timer_stop`
has disarmed it when `pd_watcher_stop` fails, and `kqueue_timer_start` has written
`pending_initial` when `kevent` is refused.

`Status` is what a failed call has to leave as it was.  When it does is said for each call
of each backend in `failed_timer_call_unchanged_iff`; on IOCP, and for a stop on kqueue, it
always does.
-/
import PollDancer.Iocp.TimerCalls
import PollDancer.TimerArmed

namespace PollDancer

open Library

/-- What can be told of a timer: `active`, whether the kernel timer is armed, how the
internal watcher is registered, and the timer's platform data. -/
structure Status (ρ τ : Type) where
  active : Bool
  armed : Bool
  registration : ρ
  phase : Option τ

/-! ### epoll -/

namespace Epoll

/-- Of the internal watcher `a` on a timerfd: whether it is active, whether there is a record
for it, and the membership of the timerfd. -/
structure WatcherRegistration where
  active : Option Bool
  recorded : Bool
  member : Option EpollEvent

/-- The registration of the internal watcher. -/
def registration (s : EpollWorld) (t : Addr) : WatcherRegistration where
  active := ((s.sys.timers t).bind (·.watcher)).bind fun a => (s.heap a).map (·.active)
  recorded := ((s.sys.timers t).bind (·.watcher)).any fun a => s.sys.table.any (·.watcher == a)
  member := s.sys.kernel.interest (timerfd s t)

/-- The status of the timer `t`. -/
def status (s : EpollWorld) (t : Addr) : Status WatcherRegistration ℤ where
  active := active s t
  armed := armed s t
  registration := registration s t
  phase := (s.sys.timers t).bind (·.platformData)

section Failures

variable {k : EpollSys} {a t : Addr} {w : PdWatcher EpollWatcherData} {env : EpollEnv}
  {s s' : EpollWorld} {tm : PdTimer ℤ} {refused : Option Errno}

/-- The watcher `a` is as active and as registered as it was. -/
structure SameRegistration (s s' : EpollWorld) (a : Addr) : Prop where
  active : (s'.heap a).map (·.active) = (s.heap a).map (·.active)
  recorded : s'.sys.table.any (·.watcher == a) = s.sys.table.any (·.watcher == a)
  interest : s'.sys.kernel.interest = s.sys.kernel.interest

/-- Evicting the records of others does not concern the watcher. -/
theorem any_evicted (l : List Registration) (fd : ℤ) (a : Addr) :
    (evicted l fd a).any (·.watcher == a) = l.any (·.watcher == a) := by
  rw [Bool.eq_iff_iff, List.any_eq_true, List.any_eq_true]
  constructor
  · rintro ⟨r, hr, ho⟩
    exact ⟨r, (mem_evictOther_of_owner (eq_of_beq ho)).1 hr, ho⟩
  · rintro ⟨r, hr, ho⟩
    exact ⟨r, (mem_evictOther_of_owner (eq_of_beq ho)).2 hr, ho⟩

/-- A registration that fails leaves the watcher's record and the kernel as they were. -/
theorem register_failed (hne : (epollWatcherRegister k a w env).code ≠ .ok) :
    (epollWatcherRegister k a w env).sys.table.any (·.watcher == a) =
        k.table.any (·.watcher == a) ∧
      (epollWatcherRegister k a w env).sys.kernel = k.kernel := by
  cases hd : k.data with
  | none =>
      rw [epollWatcherRegister, hd]
      exact ⟨rfl, rfl⟩
  | some d =>
      rcases register_cases hd a w env with ⟨-, -, hy⟩ | ⟨-, -, hy⟩ | ⟨-, hok, -⟩
      · exact ⟨by rw [hy.table_eq], hy.kernel_eq⟩
      · exact ⟨by rw [hy.table_eq, any_evicted], hy.kernel_eq⟩
      · exact absurd hok hne

/-- So does a failing removal. -/
theorem unregister_failed (hne : (epollWatcherUnregister k a w).code ≠ .ok) :
    (epollWatcherUnregister k a w).sys.table = k.table ∧
      (epollWatcherUnregister k a w).sys.kernel = k.kernel := by
  cases hd : k.data with
  | none =>
      rw [epollWatcherUnregister, hd]
      exact ⟨rfl, rfl⟩
  | some d =>
      rcases unregister_cases hd a w with ⟨-, hok, -⟩ | ⟨-, -, -, -, hy⟩ | ⟨-, hok, -⟩
      · exact absurd hok hne
      · exact ⟨hy.table_eq, hy.kernel_eq⟩
      · exact absurd hok hne

/-- `pd_watcher_start` fails: the watcher is as it was. -/
theorem SameRegistration.start (hne : (pdWatcherStart epollOps s a env).2 ≠ .ok) :
    SameRegistration s (pdWatcherStart epollOps s a env).1 a := by
  cases hw : s.heap a with
  | none =>
      rw [pdWatcherStart, hw]
      exact ⟨rfl, rfl, rfl⟩
  | some w =>
      cases hact : w.active with
      | true =>
          rw [start_of_active env hw hact] at hne
          exact absurd rfl hne
      | false =>
          by_cases hr : (epollWatcherRegister s.sys a { w with active := true } env).code = .ok
          · rw [start_of_ok hw hact rfl hr] at hne
            exact absurd rfl hne
          · rw [start_of_ne_ok hw hact rfl hr]
            obtain ⟨htable, hkernel⟩ := register_failed hr
            refine ⟨?_, htable, congrArg Kernel.interest hkernel⟩
            rw [World.setSys_heap, World.setWatcher_heap_self, hw, Option.map_some,
              Option.map_some, hact]

/-- `pd_watcher_stop` fails: the watcher is as it was. -/
theorem SameRegistration.stop (hne : (pdWatcherStop epollOps s a).2 ≠ .ok) :
    SameRegistration s (pdWatcherStop epollOps s a).1 a := by
  cases hw : s.heap a with
  | none =>
      rw [pdWatcherStop, hw]
      exact ⟨rfl, rfl, rfl⟩
  | some w =>
      cases hact : w.active with
      | false =>
          rw [stop_of_inactive hw hact] at hne
          exact absurd rfl hne
      | true =>
          by_cases hr : (epollWatcherUnregister s.sys a { w with active := false }).code = .ok
          · rw [stop_of_ok hw hact rfl hr] at hne
            exact absurd rfl hne
          · rw [stop_of_ne_ok hw hact rfl hr]
            obtain ⟨htable, hkernel⟩ := unregister_failed hr
            refine ⟨?_, congrArg (List.any · _) htable, congrArg Kernel.interest hkernel⟩
            rw [World.setSys_heap, World.setWatcher_heap_self, hw, Option.map_some,
              Option.map_some, hact]

/-- What a failing `epoll_timer_start` or `epoll_timer_stop` leaves. -/
theorem setThenCall_failed (htm : s.sys.timers t = some tm) (tm' : PdTimer ℤ)
    (hp : tm'.platformData = tm.platformData) (hw : tm'.watcher = tm.watcher)
    {its : Itimerspec} {call : EpollWorld → Addr → EpollWorld × PdError}
    (hcall : ∀ s a, (call s a).2 ≠ .ok → SameRegistration s (call s a).1 a)
    (hsame : ∀ s a, SameTimers s.sys (call s a).1.sys)
    (hne : (setThenCall (setTimer s t (some tm')) tm' its refused call).2 ≠ .ok) :
    let r := setThenCall (setTimer s t (some tm')) tm' its refused call
    r.1.sys.kernel.timers = resetTimer s t refused its ∧
      (∀ a, tm.watcher = some a → SameRegistration s r.1 a) ∧
      r.1.sys.kernel.interest (timerfd s t) = s.sys.kernel.interest (timerfd s t) := by
  dsimp only
  rw [resetTimer, timerfd_of_some htm]
  cases hset : settable s t refused with
  | false =>
      rw [if_neg Bool.false_ne_true]
      unfold setThenCall
      rw [hp]
      by_cases hfd : tm.platformData.getD (-1) < 0
      · rw [if_pos hfd]
        exact ⟨rfl, fun _ _ => ⟨rfl, rfl, rfl⟩, rfl⟩
      · obtain ⟨e, he⟩ := settime_of_not_settable htm hset (some tm') its hfd
        rw [if_neg hfd, he]
        exact ⟨rfl, fun _ _ => ⟨rfl, rfl, rfl⟩, rfl⟩
  | true =>
      rw [if_pos rfl]
      cases hwatcher : tm.watcher with
      | none =>
          have hfd := Int.not_lt.2 ((settable_of_some htm).1 hset).1
          refine absurd ?_ hne
          unfold setThenCall
          rw [hp, if_neg hfd, settime_of_settable htm hset, hw, hwatcher]
      | some a =>
          rw [setThenCall_of_settable htm hp its call hset (hw.trans hwatcher)] at hne ⊢
          have hkept := hcall _ a hne
          refine ⟨(hsame _ a).settings, ?_, congrFun hkept.interest _⟩
          rintro b ⟨⟩
          exact ⟨hkept.active, hkept.recorded, hkept.interest⟩

/-- A call that puts the timer structure back and leaves the registration leaves everything
but the setting of the timerfd. -/
theorem status_eq_iff (htm : s.sys.timers t = some tm) (htm' : s'.sys.timers t = some tm)
    (hreg : ∀ a, tm.watcher = some a → SameRegistration s s' a)
    (hmember : s'.sys.kernel.interest (timerfd s t) = s.sys.kernel.interest (timerfd s t)) :
    status s' t = status s t ↔ armed s' t = armed s t := by
  have hregistration : registration s' t = registration s t := by
    rw [registration, registration, htm, htm', timerfd_of_some htm', ← timerfd_of_some htm, hmember]
    cases ha : tm.watcher with
    | none => simp [ha]
    | some a => simp [ha, (hreg a ha).active, (hreg a ha).recorded]
  have hactive : active s' t = active s t := by rw [active_of_some htm', active_of_some htm]
  rw [status, status, hactive, hregistration, htm, htm']
  simp

/-- So a failing call that puts the timer structure back leaves the timer as it was exactly if
the timerfd has not been set, or was armed as it is now. -/
theorem status_failed_iff (htm : s.sys.timers t = some tm) {its : Itimerspec} {k : EpollWorld}
    (hk : k.sys.kernel.timers = resetTimer s t refused its ∧
      (∀ a, tm.watcher = some a → SameRegistration s k a) ∧
      k.sys.kernel.interest (timerfd s t) = s.sys.kernel.interest (timerfd s t)) :
    status (setTimer k t (some tm)) t = status s t ↔
      settable s t refused = false ∨ armed s t = its.armed := by
  obtain ⟨hsettings, hreg, hmember⟩ := hk
  have htm' := setTimer_timers_self k t (some tm)
  have harmed : armed (setTimer k t (some tm)) t =
      if settable s t refused then its.armed else armed s t :=
    armed_of_settings htm rfl htm' hsettings
  rw [status_eq_iff htm htm' (fun a ha => ⟨(hreg a ha).active, (hreg a ha).recorded,
    (hreg a ha).interest⟩) hmember, harmed]
  cases settable s t refused with
  | false => exact iff_of_true rfl (.inl rfl)
  | true =>
      rw [if_pos rfl]
      exact ⟨fun h => .inr h.symm, fun h => (h.resolve_left nofun).symm⟩

/-- **A failed start leaves the timer as it was exactly if it has not set the timerfd**, or
that was armed. -/
theorem failed_start_unchanged_iff (htm : s.sys.timers t = some tm)
    (hne : (pdTimerStart s t refused env).2 ≠ .ok) :
    status (pdTimerStart s t refused env).1 t = status s t ↔
      settable s t refused = false ∨ armed s t = true := by
  unfold pdTimerStart at hne ⊢
  rw [htm] at hne ⊢
  dsimp only at hne ⊢
  split_ifs at hne ⊢ with hact hcode
  · exact absurd rfl hne
  · have hself : ({ tm with active := false } : PdTimer ℤ) = tm := by
      rw [← Bool.eq_false_iff.2 hact]
    have hleft := setThenCall_failed htm { tm with active := true } rfl rfl
      (fun _ _ => SameRegistration.start) (fun s a => exec_sameTimers s (.start a env)) hne
    rw [hself]
    exact (status_failed_iff htm hleft).trans (by rw [timerSpec_armed])
  · exact absurd rfl hne

/-- **A failed stop leaves the timer as it was exactly if it has not disarmed the timerfd**, or
that was not armed. -/
theorem failed_stop_unchanged_iff (htm : s.sys.timers t = some tm)
    (hne : (pdTimerStop s t refused).2 ≠ .ok) :
    status (pdTimerStop s t refused).1 t = status s t ↔
      settable s t refused = false ∨ armed s t = false := by
  unfold pdTimerStop at hne ⊢
  rw [htm] at hne ⊢
  dsimp only at hne ⊢
  split_ifs at hne ⊢ with hact hcode
  · exact absurd rfl hne
  · have hself : ({ tm with active := true } : PdTimer ℤ) = tm := by
      rw [← (show tm.active = true by simpa using hact)]
    have hleft := setThenCall_failed htm { tm with active := false } rfl rfl
      (fun _ _ => SameRegistration.stop) (fun s a => exec_sameTimers s (.stop a)) hne
    rw [hself]
    exact status_failed_iff htm hleft
  · exact absurd rfl hne

end Failures

end Epoll

/-! ### kqueue -/

namespace Kqueue

/-- The status of the timer `t`.  The placeholder is never registered; the phase fields are
`registered` and `pending_initial`. -/
def status (s : KqueueWorld) (t : Addr) : Status (Option Bool) KqueueTimerData where
  active := active s t
  armed := (s.sys.kernel.timers t).isSome
  registration := ((s.sys.timers t).bind (·.watcher)).bind fun a => (s.heap a).map (·.active)
  phase := (s.sys.timers t).bind (·.platformData)

section Failures

variable {t : Addr} {s : KqueueWorld} {tm : PdTimer KqueueTimerData} {refused : Option Errno}

/-- What a failing `kqueue_timer_start` does: nothing, or it has written `pending_initial`
when the kernel refuses. -/
theorem timerStart_failed (hne : (kqueueTimerStart s t tm refused).2 ≠ .ok) :
    ((s.sys.data = none ∨ tm.platformData = none) ∧ (kqueueTimerStart s t tm refused).1 = s) ∨
    ∃ td, s.sys.data ≠ none ∧ tm.platformData = some td ∧
      (kqueueTimerStart s t tm refused).1.sys.timers t =
        some { tm with platformData := some { td with pendingInitial := twoPhase tm } } ∧
      (kqueueTimerStart s t tm refused).1.sys.kernel = s.sys.kernel ∧
      (kqueueTimerStart s t tm refused).1.heap = s.heap := by
  unfold kqueueTimerStart at hne ⊢
  cases hd : s.sys.data with
  | none => exact .inl ⟨.inl rfl, rfl⟩
  | some d =>
      rw [hd] at hne
      cases hp : tm.platformData with
      | none => exact .inl ⟨.inr rfl, rfl⟩
      | some td =>
          rw [hp] at hne
          cases refused with
          | none => exact absurd rfl hne
          | some e => exact .inr ⟨td, nofun, rfl, setTimer_timers_self .., rfl, rfl⟩

/-- **A failed start leaves the timer as it was exactly if it has not asked the kernel**, or
`pending_initial` was what it writes there. -/
theorem failed_start_unchanged_iff (htm : s.sys.timers t = some tm)
    (hne : (pdTimerStart s t refused).2 ≠ .ok) :
    status (pdTimerStart s t refused).1 t = status s t ↔
      s.sys.data = none ∨ ∀ td, tm.platformData = some td → td.pendingInitial = twoPhase tm := by
  unfold pdTimerStart at hne ⊢
  rw [htm] at hne ⊢
  dsimp only at hne ⊢
  split_ifs at hne ⊢ with hact hcode
  · exact absurd rfl hne
  · have hact' := Bool.eq_false_iff.2 hact
    rcases timerStart_failed hcode with ⟨hnone, hsame⟩ | ⟨td, hdata, hp, htimers, hkernel, hheap⟩
    · rw [hsame, setActive_setActive htm hact' true]
      refine iff_of_true rfl (hnone.imp_right fun hp td htd => ?_)
      nomatch hp.symm.trans htd
    · have hafter := setActive_timers htimers false
      have hphase : td.pendingInitial = twoPhase tm ↔
          ({ td with pendingInitial := twoPhase tm } : KqueueTimerData) = td := by
        constructor
        · intro h
          rw [← h]
        · exact fun h => (congrArg KqueueTimerData.pendingInitial h).symm
      constructor
      · intro h
        refine .inr fun td' htd' => ?_
        obtain rfl := Option.some.inj (hp.symm.trans htd')
        have hsame := congrArg Status.phase h
        simp only [status, hafter, htm, Option.bind_some] at hsame
        exact hphase.2 (Option.some.inj (hsame.trans hp))
      · intro h
        have htd := hphase.1 ((h.resolve_left hdata) td hp)
        generalize hr : kqueueTimerStart (setActive s t true) t { tm with active := true }
          refused = r at htimers hkernel hheap hafter
        have hself : (setActive r.1 t false).sys.timers t = some tm := by
          have hp' : ({ tm with active := false, platformData := some td } :
              PdTimer KqueueTimerData) = tm := by rw [← hact', ← hp]
          rw [hafter, ← hp']
          exact congrArg (fun td' => some { tm with active := false, platformData := some td' }) htd
        have hknote : (setActive r.1 t false).sys.kernel = s.sys.kernel := hkernel
        have hwatchers : (setActive r.1 t false).heap = s.heap := hheap
        rw [status, status, active_of_some hself, active_of_some htm, hself, htm, hknote, hwatchers]
  · exact absurd rfl hne

/-- A stop that fails has asked nobody. -/
theorem failed_stop_unchanged (htm : s.sys.timers t = some tm)
    (hne : (pdTimerStop s t).2 ≠ .ok) : status (pdTimerStop s t).1 t = status s t := by
  unfold pdTimerStop at hne ⊢
  rw [htm] at hne ⊢
  dsimp only at hne ⊢
  split_ifs at hne ⊢ with hact hcode
  · exact absurd rfl hne
  · have hact' : tm.active = true := by simpa using hact
    have hsame : (kqueueTimerStop (setActive s t false) t { tm with active := false }).1 =
        setActive s t false := by
      unfold kqueueTimerStop at hcode ⊢
      split at hcode
      · rfl
      · split at hcode
        · rfl
        · split_ifs at hcode with hreg
          · exact absurd rfl hcode
          · exact absurd rfl hcode
    rw [hsame, setActive_setActive htm hact' false]
  · exact absurd rfl hne

end Failures

end Kqueue

/-! ### IOCP -/

namespace Iocp.Timer

/-- The status of the timer.  The placeholder is never registered; the phase field is
`started`. -/
def TimerState.status (s : TimerState) : Status Unit IocpTimerData where
  active := s.timer.active
  armed := s.queueTimer.isSome
  registration := ()
  phase := s.timer.platformData

section Failures

variable {s : TimerState} {refused : Option WinError}

/-- A start that fails has made no queue timer. -/
theorem iocpTimerStart_failed (hne : (iocpTimerStart s refused).2 ≠ .ok) :
    (iocpTimerStart s refused).1.timer = s.timer ∧
      (iocpTimerStart s refused).1.queueTimer = s.queueTimer := by
  unfold iocpTimerStart at hne ⊢
  cases hp : s.timer.platformData with
  | none => exact ⟨rfl, rfl⟩
  | some d =>
      rw [hp] at hne
      cases refused with
      | none => exact absurd rfl hne
      | some e => exact ⟨rfl, rfl⟩

/-- A stop that fails has deleted none. -/
theorem iocpTimerStop_failed (hne : (iocpTimerStop s refused).2 ≠ .ok) :
    (iocpTimerStop s refused).1.timer = s.timer ∧
      (iocpTimerStop s refused).1.queueTimer = s.queueTimer := by
  unfold iocpTimerStop at hne ⊢
  cases hp : s.timer.platformData with
  | none => exact ⟨rfl, rfl⟩
  | some d =>
      rw [hp] at hne
      dsimp only at hne ⊢
      split_ifs at hne ⊢ with hstarted
      · exact ⟨rfl, rfl⟩
      · cases hr : refused.filter (· != ERROR_IO_PENDING) with
        | none =>
            rw [hr] at hne
            exact absurd rfl hne
        | some e => exact ⟨rfl, rfl⟩

/-- Marking the timer and taking that back leaves its status. -/
theorem status_setActive {s' : TimerState} {b c : Bool} (hact : s.timer.active = b)
    (htimer : s'.timer = (s.setActive c).timer) (hqueue : s'.queueTimer = s.queueTimer) :
    (s'.setActive b).status = s.status := by
  rw [TimerState.status, TimerState.status, hact, ← hqueue]
  simp only [TimerState.setActive, htimer]

theorem failed_start_unchanged (hne : (pdTimerStart s refused).2 ≠ .ok) :
    (pdTimerStart s refused).1.status = s.status := by
  unfold pdTimerStart at hne ⊢
  dsimp only at hne ⊢
  split_ifs at hne ⊢ with hact hcode
  · exact absurd rfl hne
  · obtain ⟨htimer, hqueue⟩ := iocpTimerStart_failed hcode
    exact status_setActive (Bool.eq_false_iff.2 hact) htimer hqueue
  · exact absurd rfl hne

theorem failed_stop_unchanged (hne : (pdTimerStop s refused).2 ≠ .ok) :
    (pdTimerStop s refused).1.status = s.status := by
  unfold pdTimerStop at hne ⊢
  dsimp only at hne ⊢
  split_ifs at hne ⊢ with hact hcode
  · exact absurd rfl hne
  · obtain ⟨htimer, hqueue⟩ := iocpTimerStop_failed hcode
    exact status_setActive (by simpa using hact) htimer hqueue
  · exact absurd rfl hne

end Failures

end Iocp.Timer

/-- **A failed start or stop leaves the timer as it was** exactly in these cases: on epoll, if
the timerfd has not been set, or was armed before a start, or was not before a stop; on
kqueue, for a start, if the kernel was not asked or `pending_initial` was what is written
there; on kqueue for a stop, and on IOCP, always. -/
theorem failed_timer_call_unchanged_iff (t : Addr) :
    (∀ (s : Epoll.EpollWorld) tm refused env, s.sys.timers t = some tm →
      (Epoll.pdTimerStart s t refused env).2 ≠ .ok →
      (Epoll.status (Epoll.pdTimerStart s t refused env).1 t = Epoll.status s t ↔
        Epoll.settable s t refused = false ∨ Epoll.armed s t = true)) ∧
    (∀ (s : Epoll.EpollWorld) tm refused, s.sys.timers t = some tm →
      (Epoll.pdTimerStop s t refused).2 ≠ .ok →
      (Epoll.status (Epoll.pdTimerStop s t refused).1 t = Epoll.status s t ↔
        Epoll.settable s t refused = false ∨ Epoll.armed s t = false)) ∧
    (∀ (s : Kqueue.KqueueWorld) tm refused, s.sys.timers t = some tm →
      (Kqueue.pdTimerStart s t refused).2 ≠ .ok →
      (Kqueue.status (Kqueue.pdTimerStart s t refused).1 t = Kqueue.status s t ↔
        s.sys.data = none ∨
          ∀ td, tm.platformData = some td → td.pendingInitial = Kqueue.twoPhase tm)) ∧
    (∀ (s : Kqueue.KqueueWorld) tm, s.sys.timers t = some tm →
      (Kqueue.pdTimerStop s t).2 ≠ .ok →
      Kqueue.status (Kqueue.pdTimerStop s t).1 t = Kqueue.status s t) ∧
    (∀ (s : Iocp.Timer.TimerState) refused, (Iocp.Timer.pdTimerStart s refused).2 ≠ .ok →
      (Iocp.Timer.pdTimerStart s refused).1.status = s.status) ∧
    ∀ (s : Iocp.Timer.TimerState) refused, (Iocp.Timer.pdTimerStop s refused).2 ≠ .ok →
      (Iocp.Timer.pdTimerStop s refused).1.status = s.status :=
  ⟨fun _ _ _ _ htm hne => Epoll.failed_start_unchanged_iff htm hne,
    fun _ _ _ htm hne => Epoll.failed_stop_unchanged_iff htm hne,
    fun _ _ _ htm hne => Kqueue.failed_start_unchanged_iff htm hne,
    fun _ _ htm hne => Kqueue.failed_stop_unchanged htm hne,
    fun _ _ hne => Iocp.Timer.failed_start_unchanged hne,
    fun _ _ hne => Iocp.Timer.failed_stop_unchanged hne⟩

/-- There is no memory for the registration of the internal watcher. -/
def noMemory : Epoll.EpollEnv := ⟨false, none, true⟩

/-- On epoll a failed start can leave the timerfd armed, and on kqueue `pending_initial`
set. -/
theorem not_failed_timer_call_unchanged :
    (¬∀ (s : Epoll.EpollWorld) t refused env, (s.sys.timers t).isSome →
      (Epoll.pdTimerStart s t refused env).2 ≠ .ok →
      Epoll.status (Epoll.pdTimerStart s t refused env).1 t = Epoll.status s t) ∧
    ¬∀ (s : Kqueue.KqueueWorld) t refused, (s.sys.timers t).isSome →
      (Kqueue.pdTimerStart s t refused).2 ≠ .ok →
      Kqueue.status (Kqueue.pdTimerStart s t refused).1 t = Kqueue.status s t := by
  refine ⟨fun h => ?_, fun h => ?_⟩
  · have hsame := congrArg Status.armed (h epollTimer.sys.world 300 none noMemory rfl nofun)
    exact Bool.noConfusion hsame
  · have hsame := congrArg Status.phase (h kqueueTicker.sys.world 300 (some .EINVAL) rfl nofun)
    exact absurd hsame (by decide)

/-- Where the kernel refuses to set the timerfd, and for a timer of one phase, a failed start
changes nothing. -/
theorem refused_start_unchanged :
    Epoll.status (Epoll.pdTimerStart epollTimer.sys.world 300 (some .EINVAL) noMemory).1 300 =
        Epoll.status epollTimer.sys.world 300 ∧
      Kqueue.status (Kqueue.pdTimerStart kqueueTimer.sys.world 300 (some .EINVAL)).1 300 =
        Kqueue.status kqueueTimer.sys.world 300 := by
  obtain ⟨he, -, hk, -⟩ := failed_timer_call_unchanged_iff 300
  refine ⟨(he epollTimer.sys.world _ (some .EINVAL) noMemory rfl nofun).2 (.inl rfl),
    (hk kqueueTimer.sys.world _ (some .EINVAL) rfl nofun).2 (.inr ?_)⟩
  rintro td ⟨⟩
  rfl

end PollDancer
