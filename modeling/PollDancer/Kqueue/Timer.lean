/-
# Timers on kqueue

`pd_timer_create`, `pd_timer_start`, `pd_timer_stop` and `pd_timer_destroy` of
`src/timer.c` with the timer operations of `src/platform/kqueue.c`.

A timer is an `EVFILT_TIMER` filter whose identifier is the timer itself, and a
placeholder watcher in the list of the loop.  A timer that repeats after a different first
delay is added as a one-shot filter, and `pending_initial` tells the loop to add it again
when it fires (`rearm`).
-/
import PollDancer.LoopRun

namespace PollDancer
namespace Kqueue

/-- The answers of the environment to `pd_timer_create`: the address of the timer, memory
for its platform data, the address of the placeholder, and whether the list can grow. -/
structure TimerEnv where
  calloc : Option Addr
  dataAlloc : Bool
  watcher : Option Addr
  growList : Bool
  deriving DecidableEq, Repr

/-- The timer structure at `t` is allocated, overwritten or freed. -/
def setTimer (s : KqueueWorld) (t : Addr) (tm : Option (PdTimer KqueueTimerData)) : KqueueWorld :=
  s.setSys { s.sys with timers := Function.update s.sys.timers t tm }

@[simp]
theorem setTimer_timers_self (s : KqueueWorld) (t : Addr) (tm : Option (PdTimer KqueueTimerData)) :
    (setTimer s t tm).sys.timers t = tm :=
  Function.update_self ..

/-- The filter of the timer `t` is added, replaced or deleted. -/
def setTimerKnote (s : KqueueWorld) (t : Addr) (n : Option TimerKnote) : KqueueWorld :=
  s.setSys
    { s.sys with
      kernel := { s.sys.kernel with timers := Function.update s.sys.kernel.timers t n } }

@[simp]
theorem setTimerKnote_knote_self (s : KqueueWorld) (t : Addr) (n : Option TimerKnote) :
    (setTimerKnote s t n).sys.kernel.timers t = n :=
  Function.update_self ..

/-- `calloc` of a timer. -/
def callocTimer (s : KqueueWorld) (p : Option Addr) : Option Addr :=
  p.filter fun t => t ≠ NULL ∧ (s.sys.timers t).isNone

/-- The placeholder watcher of the timer `t`. -/
def placeholder (t : Addr) : PdWatcher KqueueWatcherData :=
  { fd := -1, handle := NULL, isHandle := false, events := .none, callback := none, userData := t,
    active := false, platformData := none }

/-- `kqueue_timer_create`.  The timer structure is in the heap only once `pd_timer_create`
has kept it. -/
def kqueueTimerCreate (s : KqueueWorld) (t : Addr) (tm : PdTimer KqueueTimerData)
    (env : TimerEnv) : KqueueWorld × PdTimer KqueueTimerData × PdError :=
  if !env.dataAlloc then (s.setSys (s.sys.setError .ENOMEM), tm, .noMemory)
  else match s.calloc env.watcher with
    | none => (s, { tm with platformData := none }, .noMemory)
    | some a =>
      let added := pdLoopAddWatcher s.loop a env.growList
      if added.2 ≠ .ok then
        (s.setLoop added.1, { tm with watcher := none, platformData := none }, added.2)
      else
        ((s.setLoop added.1).setWatcher a (placeholder t),
          { tm with watcher := some a, ownsWatcher := false, platformData := some ⟨false, false⟩ },
          .ok)

/-- `pd_timer_create`. -/
def pdTimerCreate (s : KqueueWorld) (timeoutMs intervalMs : UInt64) (callback : Option Callback)
    (userData : Addr) (env : TimerEnv) : KqueueWorld × Option Addr :=
  match callback with
  | none => (s, none)
  | some callback =>
    match callocTimer s env.calloc with
    | none => (s, none)
    | some t =>
      let r := kqueueTimerCreate s t
        { watcher := none, timeoutMs, intervalMs, callback, userData, active := false,
          ownsWatcher := false, platformData := none } env
      if r.2.2 ≠ .ok then (r.1, none) else (setTimer r.1 t (some r.2.1), some t)

/-- Does the timer need a one-shot filter for its first delay? -/
def twoPhase (tm : PdTimer KqueueTimerData) : Bool :=
  tm.intervalMs > 0 && tm.timeoutMs != tm.intervalMs && tm.timeoutMs != 0

/-- The filter that `kqueue_timer_start` adds.  A delay of zero becomes one millisecond. -/
def timerKnote (tm : PdTimer KqueueTimerData) : TimerKnote :=
  if twoPhase tm then ⟨true, tm.timeoutMs⟩
  else
    let value := if tm.intervalMs > 0 then tm.intervalMs else tm.timeoutMs
    ⟨false, if value = 0 then 1 else value⟩

/-- `kqueue_timer_start` for the timer at `t`.  `pending_initial` is written before the
filter is added. -/
def kqueueTimerStart (s : KqueueWorld) (t : Addr) (tm : PdTimer KqueueTimerData)
    (refused : Option Errno) : KqueueWorld × PdError :=
  match s.sys.data with
  | none => (s, .loopClosed)
  | some _ =>
    match tm.platformData with
    | none => (s, .invalidArg)
    | some td =>
      let td := { td with pendingInitial := twoPhase tm }
      match refused with
      | some e =>
        let s := setTimer s t (some { tm with platformData := some td })
        (s.setSys (s.sys.setError e), .system)
      | none =>
        (setTimer (setTimerKnote s t (some (timerKnote tm))) t
          (some { tm with platformData := some { td with registered := true } }), .ok)

/-- `kqueue_timer_stop` for the timer at `t`.  The result of `EV_DELETE` is ignored. -/
def kqueueTimerStop (s : KqueueWorld) (t : Addr) (tm : PdTimer KqueueTimerData) :
    KqueueWorld × PdError :=
  match s.sys.data with
  | none => (s, .loopClosed)
  | some _ =>
    match tm.platformData with
    | none => (s, .ok)
    | some td =>
      if !td.registered then (s, .ok)
      else
        (setTimer (setTimerKnote s t none) t (some { tm with platformData := some ⟨false, false⟩ }),
          .ok)

/-- `timer->active` is written. -/
def setActive (s : KqueueWorld) (t : Addr) (active : Bool) : KqueueWorld :=
  setTimer s t ((s.sys.timers t).map fun tm => { tm with active })

/-- `pd_timer_start`. -/
def pdTimerStart (s : KqueueWorld) (t : Addr) (refused : Option Errno) : KqueueWorld × PdError :=
  match s.sys.timers t with
  | none => (s, .invalidArg)
  | some tm =>
    if tm.active then (s, .ok)
    else
      let r := kqueueTimerStart (setActive s t true) t { tm with active := true } refused
      if r.2 ≠ .ok then (setActive r.1 t false, r.2) else (r.1, .ok)

/-- `pd_timer_stop`. -/
def pdTimerStop (s : KqueueWorld) (t : Addr) : KqueueWorld × PdError :=
  match s.sys.timers t with
  | none => (s, .invalidArg)
  | some tm =>
    if !tm.active then (s, .ok)
    else
      let r := kqueueTimerStop (setActive s t false) t { tm with active := false }
      if r.2 ≠ .ok then (setActive r.1 t true, r.2) else (r.1, .ok)

/-- `kqueue_timer_destroy`: the placeholder leaves the list and is freed. -/
def kqueueTimerDestroy (s : KqueueWorld) (tm : PdTimer KqueueTimerData) : KqueueWorld :=
  match tm.watcher with
  | none => s
  | some a => (s.setLoop (pdLoopRemoveWatcher s.loop a).1).free a

/-- `pd_timer_destroy`: stop the timer, call the backend, free the structure.  The
placeholder is not the timer's own watcher (`owns_watcher`), so it is left to the backend. -/
def pdTimerDestroy (s : KqueueWorld) (t : Addr) : KqueueWorld :=
  match s.sys.timers t with
  | none => s
  | some tm =>
    let s := if tm.active then (pdTimerStop s t).1 else s
    setTimer (kqueueTimerDestroy s tm) t none

/-! ### What the calls do to a timer -/

variable {s : KqueueWorld} {t : Addr}

/-- Is the timer active? -/
def active (s : KqueueWorld) (t : Addr) : Bool := (s.sys.timers t).any (·.active)

/-- A timer that exists has its data, `registered` says what `active` says, and a timer
that is not active has no filter. -/
structure Fits (s : KqueueWorld) (t : Addr) : Prop where
  registered : ∀ tm, s.sys.timers t = some tm →
    ∃ td, tm.platformData = some td ∧ td.registered = tm.active
  filter : active s t = false → s.sys.kernel.timers t = none

theorem active_of_some {tm : PdTimer KqueueTimerData} (h : s.sys.timers t = some tm) :
    active s t = tm.active := by
  rw [active, h]
  rfl

theorem active_of_none (h : s.sys.timers t = none) : active s t = false := by
  rw [active, h]
  rfl

/-- A timer that exists, by its structure. -/
theorem Fits.of_some {tm : PdTimer KqueueTimerData} {td : KqueueTimerData}
    (h : s.sys.timers t = some tm) (hp : tm.platformData = some td)
    (hreg : td.registered = tm.active)
    (hfilter : tm.active = false → s.sys.kernel.timers t = none) : Fits s t where
  registered := by
    intro tm' htm'
    obtain rfl := Option.some.inj (h.symm.trans htm')
    exact ⟨td, hp, hreg⟩
  filter := by
    intro hact
    rw [active_of_some h] at hact
    exact hfilter hact

/-- `kqueue_timer_create` fails, or gives the timer data that says it is not registered. -/
theorem timerCreate_cases (s : KqueueWorld) (t : Addr) (tm : PdTimer KqueueTimerData)
    (env : TimerEnv) :
    (kqueueTimerCreate s t tm env).2.2 ≠ .ok ∨
    ((kqueueTimerCreate s t tm env).2.1.platformData = some ⟨false, false⟩ ∧
      (kqueueTimerCreate s t tm env).2.1.active = tm.active ∧
      (kqueueTimerCreate s t tm env).1.sys.kernel = s.sys.kernel) := by
  unfold kqueueTimerCreate
  split_ifs
  · exact Or.inl (by simp)
  · cases s.calloc env.watcher with
    | none => exact Or.inl (by simp)
    | some a =>
        dsimp only
        split_ifs with hadd
        · exact Or.inl hadd
        · exact Or.inr ⟨rfl, rfl, rfl⟩

/-- `pd_timer_create` makes a timer that is not active. -/
theorem Fits.create {timeoutMs intervalMs : UInt64} {callback : Option Callback} {userData : Addr}
    {env : TimerEnv} {s' : KqueueWorld} (hfilter : s.sys.kernel.timers t = none)
    (h : pdTimerCreate s timeoutMs intervalMs callback userData env = (s', some t)) :
    Fits s' t ∧ active s' t = false := by
  unfold pdTimerCreate at h
  cases callback with
  | none => exact nomatch h
  | some callback =>
      cases hc : callocTimer s env.calloc with
      | none =>
          rw [hc] at h
          exact nomatch h
      | some u =>
          rw [hc] at h
          dsimp only at h
          split_ifs at h with hcode
          · exact nomatch h
          · obtain ⟨rfl, hu⟩ := Prod.mk.inj h
            obtain rfl := Option.some.inj hu
            rcases timerCreate_cases s u
              { watcher := none, timeoutMs, intervalMs, callback, userData, active := false,
                ownsWatcher := false, platformData := none } env with hne | ⟨hp, hact, hk⟩
            · exact absurd hne hcode
            · refine ⟨.of_some (setTimer_timers_self ..) hp hact.symm fun _ => ?_, ?_⟩
              · exact (congrFun (congrArg Kernel.timers hk) u).trans hfilter
              · exact (active_of_some (setTimer_timers_self ..)).trans hact

theorem setActive_timers {tm : PdTimer KqueueTimerData} (h : s.sys.timers t = some tm) (b : Bool) :
    (setActive s t b).sys.timers t = some { tm with active := b } := by
  rw [setActive, h, setTimer_timers_self]
  rfl

/-- What `kqueue_timer_start` can do: fail and leave the filter alone, or set it. -/
theorem timerStart_cases {tm : PdTimer KqueueTimerData} {td : KqueueTimerData}
    (htm : s.sys.timers t = some tm) (hp : tm.platformData = some td) (refused : Option Errno) :
    ∃ td', (kqueueTimerStart s t tm refused).1.sys.timers t =
        some { tm with platformData := some td' } ∧
      (((kqueueTimerStart s t tm refused).2 ≠ .ok ∧ td'.registered = td.registered ∧
        (kqueueTimerStart s t tm refused).1.sys.kernel = s.sys.kernel) ∨
      ((kqueueTimerStart s t tm refused).2 = .ok ∧ td'.registered = true)) := by
  have hsame : s.sys.timers t = some { tm with platformData := some td } := by rw [htm, ← hp]
  unfold kqueueTimerStart
  cases s.sys.data with
  | none => exact ⟨td, hsame, Or.inl ⟨by simp, rfl, rfl⟩⟩
  | some d =>
      rw [hp]
      cases refused with
      | some e => exact ⟨_, setTimer_timers_self .., Or.inl ⟨by simp, rfl, rfl⟩⟩
      | none => exact ⟨_, setTimer_timers_self .., Or.inr ⟨rfl, rfl⟩⟩

/-- What `pd_timer_start` can do: nothing, to a timer that is active; set the filter; fail,
without a filter. -/
theorem start_cases (h : Fits s t) (refused : Option Errno) :
    Fits (pdTimerStart s t refused).1 t ∧
    ((active s t = true ∧ pdTimerStart s t refused = (s, .ok)) ∨
    (active s t = false ∧ (pdTimerStart s t refused).2 = .ok ∧
      active (pdTimerStart s t refused).1 t = true) ∨
    (active s t = false ∧ (pdTimerStart s t refused).2 ≠ .ok ∧
      active (pdTimerStart s t refused).1 t = false)) := by
  unfold pdTimerStart
  cases htm : s.sys.timers t with
  | none => exact ⟨h, Or.inr (Or.inr ⟨active_of_none htm, by simp, active_of_none htm⟩)⟩
  | some tm =>
      obtain ⟨td, hp, hreg⟩ := h.registered tm htm
      rw [active_of_some htm]
      dsimp only
      split_ifs with hact hcode
      · exact ⟨h, Or.inl ⟨hact, rfl⟩⟩
      · -- the call of the backend has failed
        have hact' := Bool.eq_false_iff.2 hact
        obtain ⟨td', htimers, ⟨-, hreg', hk⟩ | ⟨hok, -⟩⟩ :=
          timerStart_cases (setActive_timers htm true) hp refused
        · have hfilter : s.sys.kernel.timers t = none :=
            h.filter ((active_of_some htm).trans hact')
          refine ⟨.of_some (setActive_timers htimers false) rfl ?_ fun _ => ?_,
            Or.inr (Or.inr ⟨hact', hcode, active_of_some (setActive_timers htimers false)⟩)⟩
          · rw [hreg', hreg, hact']
          · exact (congrFun (congrArg Kernel.timers hk) t).trans hfilter
        · exact absurd hok hcode
      · have hact' := Bool.eq_false_iff.2 hact
        obtain ⟨td', htimers, ⟨hne, -⟩ | ⟨-, hreg'⟩⟩ :=
          timerStart_cases (setActive_timers htm true) hp refused
        · exact absurd hne hcode
        · exact ⟨.of_some htimers rfl hreg' fun hno => (nomatch hno),
            Or.inr (Or.inl ⟨hact', rfl, active_of_some htimers⟩)⟩

/-- Marking a timer and taking that back changes nothing. -/
theorem setActive_setActive {tm : PdTimer KqueueTimerData} (htm : s.sys.timers t = some tm)
    {b : Bool} (hact : tm.active = b) (c : Bool) : setActive (setActive s t c) t b = s := by
  have hself : some { tm with active := b } = s.sys.timers t := by rw [htm, ← hact]
  rw [setActive, setActive_timers htm, setActive, htm]
  change setTimer (setTimer s t (some { tm with active := c })) t (some { tm with active := b })
    = s
  rw [hself]
  simp [setTimer, World.setSys]

/-- What `pd_timer_stop` can do: take the filter away, or fail and change nothing. -/
theorem stop_cases (h : Fits s t) :
    Fits (pdTimerStop s t).1 t ∧
    (((pdTimerStop s t).2 = .ok ∧ active (pdTimerStop s t).1 t = false) ∨
    ((pdTimerStop s t).2 ≠ .ok ∧ (pdTimerStop s t).1 = s)) := by
  cases htm : s.sys.timers t with
  | none =>
      have hr : pdTimerStop s t = (s, .invalidArg) := by rw [pdTimerStop, htm]
      rw [hr]
      exact ⟨h, Or.inr ⟨by simp, rfl⟩⟩
  | some tm =>
      obtain ⟨td, hp, hreg⟩ := h.registered tm htm
      cases hact : tm.active with
      | false =>
          have hr : pdTimerStop s t = (s, .ok) := by simp [pdTimerStop, htm, hact]
          rw [hr]
          exact ⟨h, Or.inl ⟨rfl, (active_of_some htm).trans hact⟩⟩
      | true =>
          cases hd : s.sys.data with
          | none =>
              have hstop : kqueueTimerStop (setActive s t false) t { tm with active := false }
                  = (setActive s t false, .loopClosed) := by
                rw [kqueueTimerStop, show (setActive s t false).sys.data = none from hd]
              have hr : pdTimerStop s t = (s, .loopClosed) := by
                simp [pdTimerStop, htm, hact, hstop, setActive_setActive htm hact]
              rw [hr]
              exact ⟨h, Or.inr ⟨by simp, rfl⟩⟩
          | some d =>
              have hstop : kqueueTimerStop (setActive s t false) t { tm with active := false }
                  = (setTimer (setTimerKnote (setActive s t false) t none) t
                    (some { tm with active := false, platformData := some ⟨false, false⟩ }),
                    .ok) := by
                rw [kqueueTimerStop, show (setActive s t false).sys.data = some d from hd]
                simp [hp, hreg, hact]
              have hr : pdTimerStop s t = (setTimer (setTimerKnote (setActive s t false) t none) t
                  (some { tm with active := false, platformData := some ⟨false, false⟩ }),
                  .ok) := by
                simp [pdTimerStop, htm, hact, hstop]
              rw [hr]
              exact ⟨.of_some (setTimer_timers_self ..) rfl rfl
                fun _ => setTimerKnote_knote_self ..,
                Or.inl ⟨rfl, active_of_some (setTimer_timers_self ..)⟩⟩

/-- On a loop that is open, stopping a timer succeeds. -/
theorem stop_ok {tm : PdTimer KqueueTimerData} (htm : s.sys.timers t = some tm)
    (hopen : s.sys.data.isSome) : (pdTimerStop s t).2 = .ok := by
  have hstop : (kqueueTimerStop (setActive s t false) t { tm with active := false }).2 = .ok := by
    obtain ⟨d, hd⟩ := Option.isSome_iff_exists.1 hopen
    rw [kqueueTimerStop, show (setActive s t false).sys.data = some d from hd]
    cases tm.platformData with
    | none => rfl
    | some td =>
        dsimp only
        split_ifs <;> rfl
  unfold pdTimerStop
  rw [htm]
  dsimp only
  split_ifs with hact hcode
  · rfl
  · exact absurd hstop hcode
  · rfl

@[simp]
theorem kqueueTimerDestroy_sys (s : KqueueWorld) (tm : PdTimer KqueueTimerData) :
    (kqueueTimerDestroy s tm).sys = s.sys := by
  unfold kqueueTimerDestroy
  cases tm.watcher <;> rfl

/-- `pd_timer_destroy` leaves no filter at the address of the timer, unless the loop has
been closed before. -/
theorem Fits.destroy (h : Fits s t) (hopen : s.sys.data.isSome) :
    (pdTimerDestroy s t).sys.timers t = none ∧
      (pdTimerDestroy s t).sys.kernel.timers t = none := by
  unfold pdTimerDestroy
  cases htm : s.sys.timers t with
  | none => exact ⟨htm, h.filter (active_of_none htm)⟩
  | some tm =>
      refine ⟨setTimer_timers_self .., ?_⟩
      change (kqueueTimerDestroy _ tm).sys.kernel.timers t = none
      rw [kqueueTimerDestroy_sys]
      split_ifs with hact
      · obtain ⟨hfits, ⟨-, hstopped⟩ | ⟨hne, -⟩⟩ := stop_cases h
        · exact hfits.filter hstopped
        · exact absurd (stop_ok htm hopen) hne
      · exact h.filter ((active_of_some htm).trans (Bool.eq_false_iff.2 hact))

/-- A timer that is not in its first phase is left alone. -/
theorem rearm_of_not_pending {k : KqueueSys} {tm : PdTimer KqueueTimerData}
    {td : KqueueTimerData} (htm : k.timers t = some tm) (hp : tm.platformData = some td)
    (h : td.pendingInitial = false) (refused : Bool) : rearm k t refused = k := by
  simp [rearm, htm, hp, h]

/-- A timer in its first phase is to repeat from now on, unless the kernel refuses the filter. -/
theorem rearm_of_pending {k : KqueueSys} {tm : PdTimer KqueueTimerData} {td : KqueueTimerData}
    (htm : k.timers t = some tm) (hp : tm.platformData = some td)
    (h : td.pendingInitial = true) (refused : Bool) :
    (rearm k t refused).timers t =
        some { tm with platformData := some { td with pendingInitial := false } } ∧
      (rearm k t refused).kernel.timers t =
        if refused then k.kernel.timers t else some ⟨false, tm.intervalMs⟩ := by
  cases refused with
  | true => simp [rearm, htm, hp, h]
  | false => simp [rearm, htm, hp, h]

/-- Setting up the second phase of a timer that is active. -/
theorem Fits.rearm (h : Fits s t) (hact : active s t = true) (refused : Bool) :
    Fits (s.setSys (rearm s.sys t refused)) t ∧
      active (s.setSys (Kqueue.rearm s.sys t refused)) t = true := by
  cases htm : s.sys.timers t with
  | none => exact absurd ((active_of_none htm).symm.trans hact) Bool.false_ne_true
  | some tm =>
      obtain ⟨td, hp, hreg⟩ := h.registered tm htm
      cases hfirst : td.pendingInitial with
      | false =>
          rw [rearm_of_not_pending htm hp hfirst]
          exact ⟨h, hact⟩
      | true =>
          obtain ⟨hself, -⟩ := rearm_of_pending htm hp hfirst refused
          rw [active_of_some htm] at hact
          refine ⟨.of_some hself rfl hreg fun hno => ?_, ?_⟩
          · exact absurd (hno.symm.trans hact) Bool.false_ne_true
          · rw [active_of_some hself]
            exact hact

end Kqueue
end PollDancer
