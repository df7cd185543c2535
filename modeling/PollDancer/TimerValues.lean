/-
# The delays that timers are set to

`timeout_ms` and `interval_ms` are 64-bit numbers of milliseconds.  `epoll_timer_start`
divides them into seconds and nanoseconds, which denotes them exactly (`denotes_timerSpec`):
a delay of zero, which would disarm the timerfd, becomes a nanosecond.  `iocp_timer_start`
casts them to `DWORD`.  A cast keeps the low 32 bits, so a long delay becomes a short one,
and an interval of 2^32 ms becomes a period of zero, that is a timer which expires once
(`not_handed_exactly`).

What a timer is created with is no part of a run's state; on epoll it is recorded beside it
(`noteRequest`).  Whatever calls come in between, the timerfd of a timer that is started, and
the queue timer on IOCP, have the numbers that `pd_timer_create` was given, exactly for those
that `Casts` describes: `handed_exactly_iff`.
-/
import Mathlib.Algebra.Group.Int.Defs
import Mathlib.Algebra.Group.Nat.Defs
import PollDancer.Epoll.TimerFrame
import PollDancer.Iocp.TimerResources
import PollDancer.Library.Machine

namespace PollDancer

open Library

/-- The two times are normalised, and are the requested delay and interval. -/
structure Epoll.Itimerspec.Denotes (its : Epoll.Itimerspec) (timeoutMs intervalMs : UInt64) :
    Prop where
  valueSec : 0 ≤ its.valueSec ∧ its.valueSec < 2 ^ 63
  valueNsec : 0 ≤ its.valueNsec ∧ its.valueNsec < 1000000000
  intervalSec : 0 ≤ its.intervalSec ∧ its.intervalSec < 2 ^ 63
  intervalNsec : 0 ≤ its.intervalNsec ∧ its.intervalNsec < 1000000000
  /-- A timeout of zero is one nanosecond. -/
  value : its.valueSec * 1000000000 + its.valueNsec =
    if timeoutMs = 0 then 1 else (timeoutMs.toNat : ℤ) * 1000000
  value_ne_zero : its.valueSec ≠ 0 ∨ its.valueNsec ≠ 0
  interval : its.intervalSec * 1000000000 + its.intervalNsec = (intervalMs.toNat : ℤ) * 1000000
  interval_eq_zero_iff : its.intervalSec = 0 ∧ its.intervalNsec = 0 ↔ intervalMs = 0

/-- The due time and the period are the requested ones, as far as a `DWORD` goes. -/
structure Iocp.Timer.QueueTimer.Saturates (q : Iocp.Timer.QueueTimer)
    (timeoutMs intervalMs : UInt64) : Prop where
  dueTime : q.dueTime.toNat = min timeoutMs.toNat (2 ^ 32 - 1)
  period : q.period.toNat = min intervalMs.toNat (2 ^ 32 - 1)
  period_ne_zero : intervalMs ≠ 0 → q.period ≠ 0

namespace Epoll

/-- The delay and the interval that each timer was created with. -/
abbrev Requested := Addr → Option (UInt64 × UInt64)

/-- What an action says about them. -/
def noteRequest (s : EpollWorld) (act : TimerAction) (requested : Requested) : Requested :=
  match act with
  | .timerCreate timeoutMs intervalMs callback userData env =>
      match (pdTimerCreate s timeoutMs intervalMs callback userData env).2 with
      | none => requested
      | some t => Function.update requested t (some (timeoutMs, intervalMs))
  | .timerDestroy t _ => Function.update requested t none
  | _ => requested

/-- The runs of an epoll loop with timers, with a record of what was requested. -/
def requestRuns (eventfd : ℤ) : Machine (EpollWorld × Requested) TimerAction :=
  Machine.recorded (fun s => ∃ isOpen, s = epollLoopCreate eventfd isOpen)
    (fun s act => some (performTimer s act)) (fun _ => none) noteRequest

end Epoll

namespace Iocp
namespace Timer

/-- A call on a timer, with the answer of the system. -/
inductive TimerCall
  | start (refused : Option WinError)
  | stop (refused : Option WinError)
  deriving DecidableEq, Repr

/-- The state after a call. -/
def TimerState.perform (s : TimerState) : TimerCall → TimerState
  | .start refused => (pdTimerStart s refused).1
  | .stop refused => (pdTimerStop s refused).1

/-- The runs of the calls on a timer that `pd_timer_create` has returned. -/
def callRuns (tm : PdTimer IocpTimerData) : Machine TimerState TimerCall :=
  Machine.ofFun (fun s => s.timer = tm ∧ s.queueTimer = none) fun s c => some (s.perform c)

end Timer
end Iocp

/-- A timer that was created with these numbers is handed to the operating system with them by
every `pd_timer_start` that starts it, whatever has happened since. -/
structure HandedExactly (timeoutMs intervalMs : UInt64) : Prop where
  epoll : ∀ eventfd s requested t refused env,
    (Epoll.requestRuns eventfd).Reachable (s, requested) →
    requested t = some (timeoutMs, intervalMs) → Epoll.active s t = false →
    (Epoll.pdTimerStart s t refused env).2 = .ok →
    ∃ its, (Epoll.pdTimerStart s t refused env).1.sys.kernel.timers (Epoll.timerfd s t) = some its ∧
      its.Denotes timeoutMs intervalMs
  iocp : ∀ callback userData g p ledger a tm,
    (Iocp.TimerResources.pdTimerCreate timeoutMs intervalMs callback userData g p ledger).2 =
      some (a, tm) →
    ∀ s, (Iocp.Timer.callRuns tm).Reachable s → s.timer.active = false → ∀ refused,
    (Iocp.Timer.pdTimerStart s refused).2 = .ok →
    ∃ q, (Iocp.Timer.pdTimerStart s refused).1.queueTimer = some q ∧
      q.Saturates timeoutMs intervalMs

/-- The cast to `DWORD` keeps the number, or happens to saturate. -/
def Casts (v : UInt64) : Prop := v.toNat < 2 ^ 32 ∨ v.toNat % 2 ^ 32 = 2 ^ 32 - 1

section Words

variable {v : UInt64}

theorem toNat_pos_of_ne_zero (h : v ≠ 0) : 0 < v.toNat := by
  rw [Nat.pos_iff_ne_zero]
  exact fun hz => h (UInt64.toNat_inj.1 hz)

theorem toNat_div_thousand : (v / 1000).toNat = v.toNat / 1000 := UInt64.toNat_div ..

/-- The nanoseconds are multiplied without overflow. -/
theorem toNat_nsec : ((v % 1000) * 1000000).toNat = v.toNat % 1000 * 1000000 := by
  have hlt : v.toNat % 1000 < 1000 := Nat.mod_lt _ (by omega)
  rw [UInt64.toNat_mul, UInt64.toNat_mod, show (1000 : UInt64).toNat = 1000 from rfl,
    show (1000000 : UInt64).toNat = 1000000 from rfl, Nat.mod_eq_of_lt]
  omega

/-- Keeping the low 32 bits is saturating exactly for the numbers of `Casts`. -/
theorem toNat_toUInt32_eq_min_iff : v.toUInt32.toNat = min v.toNat (2 ^ 32 - 1) ↔ Casts v := by
  rw [UInt64.toNat_toUInt32, Casts]
  constructor
  · intro h
    omega
  · rintro (h | h)
    · omega
    · have hle : v.toNat % 2 ^ 32 ≤ v.toNat := Nat.mod_le ..
      omega

end Words

/-- The seconds and the nanoseconds of a number of milliseconds. -/
theorem Epoll.sec_nsec (v : UInt64) :
    0 ≤ ((v / 1000).toNat : ℤ) ∧ ((v / 1000).toNat : ℤ) < 2 ^ 63 ∧
      0 ≤ (((v % 1000) * 1000000).toNat : ℤ) ∧
      (((v % 1000) * 1000000).toNat : ℤ) < 1000000000 ∧
      ((v / 1000).toNat : ℤ) * 1000000000 + (((v % 1000) * 1000000).toNat : ℤ) =
        (v.toNat : ℤ) * 1000000 := by
  have hv := v.toNat_lt
  rw [toNat_div_thousand, toNat_nsec]
  refine ⟨?_, ?_, ?_, ?_, ?_⟩ <;> omega

/-- **epoll is told the requested delays**, whatever they are. -/
theorem Epoll.denotes_timerSpec (tm : PdTimer ℤ) :
    (Epoll.timerSpec tm).Denotes tm.timeoutMs tm.intervalMs := by
  obtain ⟨hs₁, hs₂, hn₁, hn₂, hsum⟩ := Epoll.sec_nsec tm.timeoutMs
  obtain ⟨is₁, is₂, in₁, in₂, isum⟩ := Epoll.sec_nsec tm.intervalMs
  have hvalue : ∀ v : UInt64, ¬ v > 0 ↔ v = 0 := fun v => by
    rw [gt_iff_lt, UInt64.lt_iff_toNat_lt, ← UInt64.toNat_inj, show (0 : UInt64).toNat = 0 from rfl]
    omega
  -- the interval is zero, or has its seconds and nanoseconds
  have hinterval : (Epoll.timerSpec tm).intervalSec = ((tm.intervalMs / 1000).toNat : ℤ) ∧
      (Epoll.timerSpec tm).intervalNsec = (((tm.intervalMs % 1000) * 1000000).toNat : ℤ) := by
    unfold Epoll.timerSpec
    dsimp only
    by_cases hi : tm.intervalMs > 0
    · rw [if_pos hi, if_pos hi]
      exact ⟨rfl, rfl⟩
    · rw [if_neg hi, if_neg hi, (hvalue _).1 hi]
      exact ⟨rfl, rfl⟩
  obtain ⟨hisec, hinsec⟩ := hinterval
  have hzero : (Epoll.timerSpec tm).intervalSec = 0 ∧ (Epoll.timerSpec tm).intervalNsec = 0 ↔
      tm.intervalMs = 0 := by
    rw [hisec, hinsec, ← UInt64.toNat_inj, show (0 : UInt64).toNat = 0 from rfl]
    omega
  by_cases ht : tm.timeoutMs > 0
  · have hne := fun hz => (hvalue tm.timeoutMs).2 hz ht
    have hpos := toNat_pos_of_ne_zero hne
    have hsec : (Epoll.timerSpec tm).valueSec = ((tm.timeoutMs / 1000).toNat : ℤ) := if_pos ht
    have hnsec : (Epoll.timerSpec tm).valueNsec =
        (((tm.timeoutMs % 1000) * 1000000).toNat : ℤ) := if_pos ht
    constructor
    · omega
    · omega
    · omega
    · omega
    · rw [if_neg hne, hsec, hnsec, hsum]
    · omega
    · rw [hisec, hinsec, isum]
    · exact hzero
  · have hsec : (Epoll.timerSpec tm).valueSec = 0 := if_neg ht
    have hnsec : (Epoll.timerSpec tm).valueNsec = 1 := if_neg ht
    constructor
    · omega
    · omega
    · omega
    · omega
    · rw [if_pos ((hvalue _).1 ht), hsec, hnsec]
      rfl
    · omega
    · rw [hisec, hinsec, isum]
    · exact hzero

/-- IOCP is told what the casts make of the delays. -/
theorem Iocp.Timer.saturates_iff (tm : PdTimer Iocp.Timer.IocpTimerData) :
    (Iocp.Timer.queueTimerFor tm).Saturates tm.timeoutMs tm.intervalMs ↔
      Casts tm.timeoutMs ∧ Casts tm.intervalMs := by
  constructor
  · exact fun h => ⟨toNat_toUInt32_eq_min_iff.1 h.dueTime, toNat_toUInt32_eq_min_iff.1 h.period⟩
  · rintro ⟨ht, hi⟩
    have hperiod := toNat_toUInt32_eq_min_iff.2 hi
    refine ⟨toNat_toUInt32_eq_min_iff.2 ht, hperiod, fun hne hzero => ?_⟩
    have hpos := toNat_pos_of_ne_zero hne
    have hp : tm.intervalMs.toUInt32 = 0 := hzero
    rw [hp, show (0 : UInt32).toNat = 0 from rfl] at hperiod
    omega

/-! ### From the creation to the start -/

namespace Epoll

variable {s s' : EpollWorld} {requested : Requested} {t : Addr} {tm : PdTimer ℤ}

/-- Every timer was created with its numbers. -/
def Noted (s : EpollWorld) (requested : Requested) : Prop :=
  ∀ t, requested t = (setting s t).map fun tm => (tm.timeoutMs, tm.intervalMs)

theorem Noted.same (h : Noted s requested) (hsame : SameFds s s') : Noted s' requested := by
  intro t
  rw [hsame.timers t]
  exact h t

/-- What one action keeps. -/
theorem Noted.perform (h : Noted s requested) (act : TimerAction) :
    Noted (performTimer s act) (noteRequest s act requested) := by
  cases act with
  | watcher c => exact h.same (sameFds_exec s c)
  | timerCreate timeoutMs intervalMs callback userData env =>
      rcases timerCreate_fds s timeoutMs intervalMs callback userData env with
        ⟨hnone, hsame⟩ | ⟨t, tm, fd, hsome, ho, htimeout, hinterval⟩
      · rw [noteRequest, hnone]
        exact h.same hsame
      · rw [noteRequest, hsome]
        intro t'
        dsimp only [performTimer]
        rcases eq_or_ne t' t with rfl | hne
        · rw [Function.update_self, setting_of_some ho.self, ← htimeout, ← hinterval]
          rfl
        · rw [Function.update_of_ne hne, ho.others t' hne]
          exact h t'
  | timerStart t refused env => exact h.same (sameFds_timerStart s t refused env)
  | timerStop t refused => exact h.same (sameFds_timerStop s t refused)
  | timerDestroy t refused =>
      have hgone := timerDestroy_setting s t refused
      intro t'
      rcases eq_or_ne t' t with rfl | hne
      · rw [noteRequest, Function.update_self, performTimer, hgone.1]
        rfl
      · rw [noteRequest, Function.update_of_ne hne, performTimer, hgone.2 t' hne]
        exact h t'
  | closeFd fd => exact h
  | openFd fd => exact h

theorem noted_of_reachable {eventfd : ℤ} (h : (requestRuns eventfd).Reachable (s, requested)) :
    Noted s requested := by
  refine Machine.Reach.recorded_invariant (I := Noted) ?_ ?_ h
  · rintro s ⟨isOpen, rfl⟩ t
    rfl
  · intro s requested act s' hi _ hstep
    obtain rfl := Option.some.inj hstep
    exact hi.perform act

/-- A timerfd is as it was set, if the call that follows succeeds. -/
theorem setting_of_setThenCall {its : Itimerspec} {refused : Option Errno}
    {call : EpollWorld → Addr → EpollWorld × PdError}
    (hcall : ∀ s w, SameTimers s.sys (call s w).1.sys)
    (hok : (setThenCall s tm its refused call).2 = .ok) :
    (setThenCall s tm its refused call).1.sys.kernel.timers (tm.platformData.getD (-1)) =
      some its := by
  unfold setThenCall at hok ⊢
  split_ifs at hok ⊢
  cases hset : timerfdSettime s (tm.platformData.getD (-1)) its refused with
  | error e =>
      rw [hset] at hok
      exact absurd hok (by simp)
  | ok s₁ =>
      obtain ⟨-, -, rfl⟩ := settime_eq_ok hset
      have hself : Function.update s.sys.kernel.timers (tm.platformData.getD (-1)) (some its)
          (tm.platformData.getD (-1)) = some its := Function.update_self ..
      dsimp only
      cases tm.watcher with
      | none => exact hself
      | some w => exact (congrFun (hcall _ w).settings _).trans hself

/-- A start of a timer that is not active succeeds where the backend does. -/
theorem timerStart_of_ok {refused : Option Errno} {env : EpollEnv}
    (htm : s.sys.timers t = some tm) (hact : tm.active = false)
    (hok : (pdTimerStart s t refused env).2 = .ok) :
    let r := epollTimerStart (setTimer s t (some { tm with active := true }))
      { tm with active := true } refused env
    r.2 = .ok ∧ (pdTimerStart s t refused env).1 = r.1 := by
  unfold pdTimerStart at hok ⊢
  rw [htm] at hok ⊢
  dsimp only at hok ⊢
  rw [hact, if_neg Bool.false_ne_true] at hok ⊢
  split_ifs at hok ⊢ with hne
  · exact absurd hok hne
  · exact ⟨not_not.1 hne, rfl⟩

/-- A start that succeeds has set the timerfd. -/
theorem setting_of_start {refused : Option Errno} {env : EpollEnv}
    (htm : s.sys.timers t = some tm) (hact : tm.active = false)
    (hok : (pdTimerStart s t refused env).2 = .ok) :
    (pdTimerStart s t refused env).1.sys.kernel.timers (timerfd s t) = some (timerSpec tm) := by
  obtain ⟨hstart, heq⟩ := timerStart_of_ok htm hact hok
  rw [epollTimerStart_eq] at hstart heq
  rw [heq, timerfd_of_some htm]
  exact setting_of_setThenCall (fun s w => exec_sameTimers s (.start w env)) hstart

example : (([TimerAction.timerCreate 1500 0 (some (.user 1)) NULL
    ⟨some 300, some 7, true, granted 200⟩, .timerStart 300 none ⟨true, none, true⟩].foldl
    performTimer (epollLoopCreate 3 fun _ => false)).sys.kernel.timers 7) =
      some ⟨1, 500000000, 0, 0⟩ := rfl

end Epoll

namespace Iocp
namespace Timer

variable {s : TimerState} {tm : PdTimer IocpTimerData} {timeoutMs intervalMs : UInt64}

/-- A timer that `pd_timer_create` returns has the numbers it was given. -/
theorem created_requests {callback : Option Callback} {userData a : Addr}
    {g : TimerResources.Grants} {p : Option Addr} {ledger : TimerResources.Ledger}
    (h : (TimerResources.pdTimerCreate timeoutMs intervalMs callback userData g p ledger).2 =
      some (a, tm)) :
    tm.timeoutMs = timeoutMs ∧ tm.intervalMs = intervalMs := by
  cases callback with
  | none => exact absurd h (by simp [TimerResources.pdTimerCreate])
  | some callback =>
      cases p with
      | none => exact absurd h (by simp [TimerResources.pdTimerCreate])
      | some b =>
          rw [TimerResources.pdTimerCreate] at h
          obtain ⟨hne, -⟩ | ⟨w, hok⟩ := TimerResources.iocpTimerCreate_spec (a := b)
            (s := ledger.acquire b .timer)
            ⟨none, timeoutMs, intervalMs, callback, userData, false, false, none⟩ g
          · rw [if_pos hne] at h
            exact absurd h (by simp)
          · rw [hok] at h
            obtain ⟨-, rfl⟩ := Prod.mk.inj (Option.some.inj h)
            exact ⟨rfl, rfl⟩

/-- The calls leave the numbers as they are. -/
theorem perform_requests (s : TimerState) (c : TimerCall) :
    (s.perform c).timer.timeoutMs = s.timer.timeoutMs ∧
      (s.perform c).timer.intervalMs = s.timer.intervalMs := by
  cases c with
  | start refused =>
      rw [TimerState.perform, pdTimerStart, iocpTimerStart]
      cases (s.setActive true).timer.platformData <;> cases refused <;> dsimp only <;> split_ifs <;>
        exact ⟨rfl, rfl⟩
  | stop refused =>
      rw [TimerState.perform, pdTimerStop, iocpTimerStop]
      cases (s.setActive false).timer.platformData with
      | none => dsimp only; split_ifs <;> exact ⟨rfl, rfl⟩
      | some d =>
          dsimp only
          cases refused.filter (· != ERROR_IO_PENDING) <;> dsimp only <;> split_ifs <;>
            exact ⟨rfl, rfl⟩

theorem requests_of_reachable (h : (callRuns tm).Reachable s) :
    s.timer.timeoutMs = tm.timeoutMs ∧ s.timer.intervalMs = tm.intervalMs := by
  refine h.invariant (I := fun s : TimerState => s.timer.timeoutMs = tm.timeoutMs ∧
    s.timer.intervalMs = tm.intervalMs) ?_ ?_
  · rintro s ⟨rfl, -⟩
    exact ⟨rfl, rfl⟩
  · rintro s c s' ⟨htimeout, hinterval⟩ - hstep
    obtain rfl := Option.some.inj hstep
    obtain ⟨htimeout', hinterval'⟩ := perform_requests s c
    exact ⟨htimeout'.trans htimeout, hinterval'.trans hinterval⟩

/-- A start that succeeds has made a queue timer with the numbers as they are cast. -/
theorem queueTimer_of_start {refused : Option WinError} (hact : s.timer.active = false)
    (hok : (pdTimerStart s refused).2 = .ok) :
    (pdTimerStart s refused).1.queueTimer = some (queueTimerFor s.timer) := by
  unfold pdTimerStart iocpTimerStart at hok ⊢
  rw [hact, if_neg Bool.false_ne_true] at hok ⊢
  cases hd : (s.setActive true).timer.platformData with
  | none =>
      rw [hd] at hok
      exact absurd hok (by simp)
  | some d =>
      rw [hd] at hok
      cases refused with
      | some e => exact absurd hok (by simp)
      | none => rfl

end Timer
end Iocp

/-- **The delay and the period are handed over as they were requested exactly if a `DWORD`
holds them**, or their low 32 bits are all ones. -/
theorem handed_exactly_iff (timeoutMs intervalMs : UInt64) :
    HandedExactly timeoutMs intervalMs ↔ Casts timeoutMs ∧ Casts intervalMs := by
  constructor
  · intro h
    -- a timer that is created and started at once
    obtain ⟨q, hq, hsat⟩ := h.iocp (some (.user 1)) NULL ⟨true, true, some 200, true⟩ (some 100)
      .empty 100 _ rfl ⟨_, none, none⟩ (.init ⟨rfl, rfl⟩) rfl none rfl
    obtain rfl := Option.some.inj hq
    exact (Iocp.Timer.saturates_iff _).1 hsat
  · intro h
    refine ⟨?_, ?_⟩
    · intro eventfd s requested t refused env hr hreq hact hok
      cases htm : s.sys.timers t with
      | none =>
          rw [Epoll.noted_of_reachable hr t, Epoll.setting_of_none htm] at hreq
          exact absurd hreq (by simp)
      | some tm =>
          rw [Epoll.noted_of_reachable hr t, Epoll.setting_of_some htm] at hreq
          obtain ⟨rfl, rfl⟩ := Prod.mk.inj (Option.some.inj hreq)
          rw [Epoll.active_of_some htm] at hact
          exact ⟨_, Epoll.setting_of_start htm hact hok, Epoll.denotes_timerSpec tm⟩
    · intro callback userData g p ledger a tm hcreate s hr hact refused hok
      obtain ⟨rfl, rfl⟩ := Iocp.Timer.created_requests hcreate
      obtain ⟨htimeout, hinterval⟩ := Iocp.Timer.requests_of_reachable hr
      refine ⟨_, Iocp.Timer.queueTimer_of_start hact hok, ?_⟩
      rw [← htimeout, ← hinterval] at h ⊢
      exact (Iocp.Timer.saturates_iff s.timer).2 h

/-- An interval of 2^32 ms becomes a period of zero. -/
theorem not_handed_exactly : ¬∀ timeoutMs intervalMs, HandedExactly timeoutMs intervalMs := by
  intro h
  obtain ⟨q, hq, hsat⟩ := (h 1000 4294967296).iocp (some (.user 1)) NULL
    ⟨true, true, some 200, true⟩ (some 100) .empty 100 _ rfl ⟨_, none, none⟩ (.init ⟨rfl, rfl⟩) rfl
    none rfl
  obtain rfl := Option.some.inj hq
  exact hsat.period_ne_zero (by decide) rfl

end PollDancer
