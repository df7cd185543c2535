/-
# What IOCP timers hold

`pd_timer_create` and `pd_timer_destroy` of `src/timer.c` with `iocp_timer_create` and
`iocp_timer_destroy` of `src/platform/iocp.c`, and the starts and stops in between, as far
as they acquire something and give it back: the structure, its data, the stop event, the
placeholder watcher with its place in `loop->watchers`, and the queue timer.

A creation that is refused a step gives back what the steps before it have acquired.  A
destruction gives back everything but what it cannot: where the drain fails the loop thread
may still look at the structure and its data, which stay for good, and a queue timer whose
deletion is refused twice is forgotten.  So in every run the timers hold what they have
acquired, and what else there is has been left by such destructions (`timers_balanced`).
-/
import PollDancer.Iocp.TimerCalls
import PollDancer.Library.Ledger
import PollDancer.Library.Machine

namespace PollDancer
namespace Iocp
namespace TimerResources

open Library
open Timer (IocpTimerData ERROR_IO_PENDING TimerState)

/-- What a timer acquires. -/
inductive Resource
  | timer
  | timerData
  | stopEvent
  | watcher
  /-- The place of the watcher in `loop->watchers`. -/
  | listed
  | queueTimer
  deriving DecidableEq, Repr

/-- What the process holds, each thing with the address of its timer. -/
abbrev Ledger := Library.Ledger Addr Resource

/-- Which of its steps `iocp_timer_create` is granted.  `watcher` is the address of the
placeholder. -/
structure Grants where
  timerData : Bool
  stopEvent : Bool
  watcher : Option Addr
  /-- The answer of `pd_loop_add_watcher`. -/
  listed : Bool
  deriving DecidableEq, Repr

/-- `iocp_timer_create`. -/
def iocpTimerCreate (g : Grants) (a : Addr) (tm : PdTimer IocpTimerData) (s : Ledger) :
    Ledger × PdTimer IocpTimerData × PdError :=
  if !g.timerData then (s, tm, .noMemory)
  else
    let s := s.acquire a .timerData
    if !g.stopEvent then (s.release a .timerData, tm, .system)
    else
      let s := s.acquire a .stopEvent
      match g.watcher with
      | none => ((s.release a .stopEvent).release a .timerData, tm, .noMemory)
      | some w =>
        let s := s.acquire a .watcher
        if !g.listed then
          (((s.release a .watcher).release a .stopEvent).release a .timerData, tm, .noMemory)
        else
          (s.acquire a .listed,
            { tm with watcher := some w, platformData := some ⟨false, false, false⟩ }, .ok)

/-- `pd_timer_create`.  `p` is the address of the structure, which is not that of another
timer. -/
def pdTimerCreate (timeoutMs intervalMs : UInt64) (callback : Option Callback) (userData : Addr)
    (g : Grants) (p : Option Addr) (s : Ledger) :
    Ledger × Option (Addr × PdTimer IocpTimerData) :=
  match callback, p with
  | none, _ => (s, none)
  | some _, none => (s, none)
  | some callback, some a =>
    let r := iocpTimerCreate g a
      { watcher := none, timeoutMs, intervalMs, callback, userData, active := false,
        ownsWatcher := false, platformData := none } (s.acquire a .timer)
    if r.2.2 ≠ .ok then (r.1.release a .timer, none) else (r.1, some (a, r.2.1))

/-- `iocp_timer_start`.  The handle in `queue_timer` is overwritten. -/
def iocpTimerStart (a : Addr) (tm : PdTimer IocpTimerData) (refused : Option WinError)
    (s : Ledger) : Ledger × PdTimer IocpTimerData × PdError :=
  match tm.platformData with
  | none => (s, tm, .invalidArg)
  | some d =>
    match refused with
    | some _ => (s, tm, .system)
    | none =>
      (s.acquire a .queueTimer,
        { tm with platformData := some { d with queueTimer := true, started := true } }, .ok)

/-- `iocp_timer_stop`. -/
def iocpTimerStop (a : Addr) (tm : PdTimer IocpTimerData) (refused : Option WinError)
    (s : Ledger) : Ledger × PdTimer IocpTimerData × PdError :=
  match tm.platformData with
  | none => (s, tm, .ok)
  | some d =>
    if !d.started then (s, tm, .ok)
    else
      match refused.filter (· != ERROR_IO_PENDING) with
      | some _ => (s, tm, .system)
      | none =>
        (s.release a .queueTimer,
          { tm with platformData := some { d with queueTimer := false, started := false } }, .ok)

/-- `pd_timer_start`. -/
def pdTimerStart (a : Addr) (tm : PdTimer IocpTimerData) (refused : Option WinError)
    (s : Ledger) : Ledger × PdTimer IocpTimerData × PdError :=
  if tm.active then (s, tm, .ok)
  else
    let r := iocpTimerStart a { tm with active := true } refused s
    if r.2.2 ≠ .ok then (r.1, { r.2.1 with active := false }, r.2.2) else (r.1, r.2.1, .ok)

/-- `pd_timer_stop`. -/
def pdTimerStop (a : Addr) (tm : PdTimer IocpTimerData) (refused : Option WinError)
    (s : Ledger) : Ledger × PdTimer IocpTimerData × PdError :=
  if !tm.active then (s, tm, .ok)
  else
    let r := iocpTimerStop a { tm with active := false } refused s
    if r.2.2 ≠ .ok then (r.1, { r.2.1 with active := true }, r.2.2) else (r.1, r.2.1, .ok)

/-- The answers of the environment to `pd_timer_destroy`: to the `DeleteTimerQueueTimer` of
the stop, to that of the destruction, and to the drain. -/
structure DestroyEnv where
  refused : Option WinError
  deleted : Bool
  drained : Bool
  deriving DecidableEq, Repr

/-- The deletion of the queue timer in `iocp_timer_destroy`, whose answer is not looked at. -/
def deleteQueueTimer (a : Addr) (d : IocpTimerData) (deleted : Bool) (s : Ledger) : Ledger :=
  if d.started && d.queueTimer && deleted then s.release a .queueTimer else s

/-- `iocp_timer_destroy`, with what it returns. -/
def iocpTimerDestroy (a : Addr) (tm : PdTimer IocpTimerData) (deleted drained : Bool)
    (s : Ledger) : Ledger × Bool :=
  let s :=
    match tm.platformData with
    | none => s
    | some d => (deleteQueueTimer a d deleted s).release a .stopEvent
  let drained := tm.watcher.isSome && drained
  let s := if drained && tm.platformData.isSome then s.release a .timerData else s
  (if tm.watcher.isSome then (s.release a .listed).release a .watcher else s, drained)

/-- `pd_timer_destroy`.  `timer->owns_watcher` is not set on this backend. -/
def pdTimerDestroy (a : Addr) (tm : PdTimer IocpTimerData) (env : DestroyEnv) (s : Ledger) :
    Ledger :=
  let r := if tm.active then pdTimerStop a tm env.refused s else (s, tm, .ok)
  let r := iocpTimerDestroy a r.2.1 env.deleted env.drained r.1
  if r.2 then r.1.release a .timer else r.1

/-! ### Runs -/

/-- The timers, what they hold, and what destroyed ones have left. -/
structure Process where
  ledger : Ledger
  timers : List (Addr × PdTimer IocpTimerData)
  left : List (Addr × Resource)

/-- What the user does. -/
inductive Action
  | create (timeoutMs intervalMs : UInt64) (callback : Option Callback) (userData : Addr)
      (g : Grants) (p : Option Addr)
  | start (a : Addr) (refused : Option WinError)
  | stop (a : Addr) (refused : Option WinError)
  | destroy (a : Addr) (env : DestroyEnv)

/-- The queue timer exists and its deletion is refused, by the stop and by the destruction. -/
def forgets (tm : PdTimer IocpTimerData) (env : DestroyEnv) : Bool :=
  tm.active && (env.refused.filter (· != ERROR_IO_PENDING)).isSome && !env.deleted

/-- What a destruction leaves. -/
def leaves (a : Addr) (tm : PdTimer IocpTimerData) (env : DestroyEnv) : List (Addr × Resource) :=
  (if forgets tm env then [(a, Resource.queueTimer)] else []) ++
    if env.drained then [] else [(a, Resource.timerData), (a, Resource.timer)]

namespace Process

/-- The timer at `a`. -/
def find (s : Process) (a : Addr) : Option (Addr × PdTimer IocpTimerData) :=
  s.timers.find? (·.1 = a)

/-- The timer at `a` is overwritten. -/
def put (s : Process) (a : Addr) (tm : PdTimer IocpTimerData) :
    List (Addr × PdTimer IocpTimerData) :=
  (a, tm) :: Ledger.others Prod.fst s.timers (a, tm)

/-- The state after an action.  `calloc` returns no address that is in use, by a timer or by
what one has left. -/
def perform (s : Process) : Action → Process
  | .create timeoutMs intervalMs callback userData g p =>
      let r := pdTimerCreate timeoutMs intervalMs callback userData g
        (p.filter fun a => a ≠ NULL ∧ (a, Resource.timer) ∉ s.ledger.held) s.ledger
      { s with ledger := r.1, timers := r.2.toList ++ s.timers }
  | .start a refused =>
      match s.find a with
      | none => s
      | some (_, tm) =>
          let r := pdTimerStart a tm refused s.ledger
          { s with ledger := r.1, timers := s.put a r.2.1 }
  | .stop a refused =>
      match s.find a with
      | none => s
      | some (_, tm) =>
          let r := pdTimerStop a tm refused s.ledger
          { s with ledger := r.1, timers := s.put a r.2.1 }
  | .destroy a env =>
      match s.find a with
      | none => s
      | some (_, tm) =>
          ⟨pdTimerDestroy a tm env s.ledger, Ledger.others Prod.fst s.timers (a, tm),
            leaves a tm env ++ s.left⟩

/-- A process without timers. -/
def empty : Process := ⟨.empty, [], []⟩

end Process

/-- The runs of the calls on the timers of a loop. -/
def processes : Machine Process Action :=
  Machine.ofFun (· = Process.empty) fun s act => some (s.perform act)

/-! ### One call -/

/-- What a timer has acquired, the last first. -/
def kinds (tm : PdTimer IocpTimerData) : List Resource :=
  (if tm.active then [Resource.queueTimer] else []) ++
    [Resource.listed, .watcher, .stopEvent, .timerData, .timer]

/-- The entries of a timer in the ledger. -/
def resources (e : Addr × PdTimer IocpTimerData) : List (Addr × Resource) :=
  Ledger.entries Prod.fst (fun e => kinds e.2) e

/-- A timer of `pd_timer_create`: it has a placeholder and data, and the data know of a queue
timer exactly while the timer is active. -/
structure Sound (tm : PdTimer IocpTimerData) : Prop where
  watcher : tm.watcher.isSome = true
  data : ∃ d, tm.platformData = some d ∧ d.started = tm.active ∧ d.queueTimer = tm.active

section

variable {a : Addr} {tm : PdTimer IocpTimerData} {s : Ledger} {refused : Option WinError}

/-- A refused step of the backend gives back what the steps before it have acquired. -/
theorem iocpTimerCreate_spec (tm : PdTimer IocpTimerData) (g : Grants) :
    ((iocpTimerCreate g a tm s).2.2 ≠ .ok ∧ (iocpTimerCreate g a tm s).1 = s) ∨
    ∃ w, iocpTimerCreate g a tm s =
      (⟨[(a, .listed), (a, .watcher), (a, .stopEvent), (a, .timerData)] ++ s.held, s.misused⟩,
        { tm with watcher := some w, platformData := some ⟨false, false, false⟩ }, .ok) := by
  cases hw : g.watcher with
  | none =>
      simp only [iocpTimerCreate, hw]
      split_ifs
      all_goals exact .inl ⟨by simp, by simp⟩
  | some w =>
      simp only [iocpTimerCreate, hw]
      split_ifs
      · exact .inl ⟨by simp, rfl⟩
      · exact .inl ⟨by simp, by simp⟩
      · exact .inl ⟨by simp, by simp⟩
      · exact .inr ⟨w, rfl⟩

/-- A refused creation leaves the ledger as it was; a granted one adds what the timer has
acquired. -/
theorem pdTimerCreate_spec (timeoutMs intervalMs : UInt64) (callback : Option Callback)
    (userData : Addr) (g : Grants) (p : Option Addr) :
    pdTimerCreate timeoutMs intervalMs callback userData g p s = (s, none) ∨
    ∃ e, pdTimerCreate timeoutMs intervalMs callback userData g p s =
        (⟨resources e ++ s.held, s.misused⟩, some e) ∧ p = some e.1 ∧ Sound e.2 := by
  cases callback with
  | none => exact .inl rfl
  | some callback =>
      cases p with
      | none => exact .inl rfl
      | some a =>
          rw [pdTimerCreate]
          obtain ⟨hne, hs⟩ | ⟨w, hok⟩ := iocpTimerCreate_spec (a := a) (s := s.acquire a .timer)
            ⟨none, timeoutMs, intervalMs, callback, userData, false, false, none⟩ g
          · rw [if_pos hne, hs, Ledger.release_acquire]
            exact .inl rfl
          · rw [hok]
            refine .inr ⟨(a, ⟨some w, timeoutMs, intervalMs, callback, userData, false, false,
              some ⟨false, false, false⟩⟩), rfl, rfl, ?_⟩
            exact ⟨rfl, ⟨false, false, false⟩, rfl, rfl, rfl⟩

/-- A start acquires a queue timer, or changes nothing. -/
theorem pdTimerStart_cases (h : Sound tm) (refused : Option WinError) (s : Ledger) :
    ((pdTimerStart a tm refused s).1 = s ∧ (pdTimerStart a tm refused s).2.1 = tm) ∨
    (tm.active = false ∧ (pdTimerStart a tm refused s).1 = s.acquire a .queueTimer ∧
      Sound (pdTimerStart a tm refused s).2.1 ∧
      (pdTimerStart a tm refused s).2.1.active = true) := by
  obtain ⟨watcher, timeoutMs, intervalMs, callback, userData, active, ownsWatcher, data⟩ := tm
  obtain ⟨hwatcher, d, rfl, -⟩ := h
  cases active with
  | true => exact .inl ⟨rfl, rfl⟩
  | false =>
      cases refused with
      | some e => exact .inl ⟨rfl, rfl⟩
      | none =>
          exact .inr ⟨rfl, rfl, ⟨hwatcher, { d with queueTimer := true, started := true },
            rfl, rfl, rfl⟩, rfl⟩

/-- A stop gives the queue timer back, or changes nothing; of an active timer only if the
deletion is refused. -/
theorem pdTimerStop_cases (h : Sound tm) (refused : Option WinError) (s : Ledger) :
    ((pdTimerStop a tm refused s).1 = s ∧ (pdTimerStop a tm refused s).2.1 = tm ∧
      (tm.active = true → (refused.filter (· != ERROR_IO_PENDING)).isSome = true)) ∨
    (tm.active = true ∧ (refused.filter (· != ERROR_IO_PENDING)).isSome = false ∧
      (pdTimerStop a tm refused s).1 = s.release a .queueTimer ∧
      Sound (pdTimerStop a tm refused s).2.1 ∧
      (pdTimerStop a tm refused s).2.1.active = false) := by
  obtain ⟨watcher, timeoutMs, intervalMs, callback, userData, active, ownsWatcher, data⟩ := tm
  obtain ⟨hwatcher, d, rfl, hstarted, -⟩ := h
  cases active with
  | false => exact .inl ⟨rfl, rfl, fun hno => absurd hno Bool.false_ne_true⟩
  | true =>
      have hstarted : d.started = true := hstarted
      cases hno : refused.filter (· != ERROR_IO_PENDING) with
      | some e => exact .inl (by simp [pdTimerStop, iocpTimerStop, hstarted, hno])
      | none =>
          refine .inr ⟨rfl, rfl, ?_⟩
          simp only [pdTimerStop, iocpTimerStop, hstarted, hno]
          exact ⟨rfl, ⟨hwatcher, { d with queueTimer := false, started := false },
            rfl, rfl, rfl⟩, rfl⟩

/-- What a call does to the timer is what it does in `PollDancer.Iocp.TimerCalls`. -/
theorem pdTimerStart_timer (w : TimerState) :
    (pdTimerStart a w.timer refused s).2 =
      ((Timer.pdTimerStart w refused).1.timer, (Timer.pdTimerStart w refused).2) := by
  obtain ⟨tm, q, e⟩ := w
  cases hact : tm.active with
  | true => simp [pdTimerStart, Timer.pdTimerStart, hact]
  | false =>
      cases hd : tm.platformData <;> cases refused <;>
        simp [pdTimerStart, Timer.pdTimerStart, iocpTimerStart, Timer.iocpTimerStart, hact, hd,
          TimerState.setActive, TimerState.setError]

theorem pdTimerStop_timer (w : TimerState) :
    (pdTimerStop a w.timer refused s).2 =
      ((Timer.pdTimerStop w refused).1.timer, (Timer.pdTimerStop w refused).2) := by
  obtain ⟨tm, q, e⟩ := w
  cases hact : tm.active with
  | false => simp [pdTimerStop, Timer.pdTimerStop, hact]
  | true =>
      cases hd : tm.platformData with
      | none => simp [pdTimerStop, Timer.pdTimerStop, iocpTimerStop, Timer.iocpTimerStop, hact, hd,
          TimerState.setActive]
      | some d =>
          cases hstarted : d.started <;> cases hno : refused.filter (· != ERROR_IO_PENDING) <;>
            simp [pdTimerStop, Timer.pdTimerStop, iocpTimerStop, Timer.iocpTimerStop, hact, hd,
              hstarted, hno, TimerState.setActive, TimerState.setError]

/-- The order in which a destruction gives back what it can. -/
def released (tm : PdTimer IocpTimerData) (env : DestroyEnv) : List Resource :=
  (if tm.active && !forgets tm env then [Resource.queueTimer] else []) ++ [Resource.stopEvent] ++
    (if env.drained then [Resource.timerData] else []) ++ [Resource.listed, .watcher] ++
    if env.drained then [Resource.timer] else []

/-- The destruction of a timer without a queue timer. -/
theorem iocpTimerDestroy_idle (h : Sound tm) (hact : tm.active = false) (deleted drained : Bool) :
    iocpTimerDestroy a tm deleted drained s =
      (Ledger.releaseAll a ([Resource.stopEvent] ++
        (if drained then [Resource.timerData] else []) ++ [Resource.listed, .watcher]) s,
        drained) := by
  obtain ⟨d, hd, hstarted, -⟩ := h.data
  rw [hact] at hstarted
  cases drained <;>
    simp [iocpTimerDestroy, deleteQueueTimer, hd, hstarted, h.watcher, Ledger.releaseAll]

theorem pdTimerDestroy_eq (h : Sound tm) (env : DestroyEnv) :
    pdTimerDestroy a tm env s = Ledger.releaseAll a (released tm env) s := by
  obtain ⟨refused, deleted, drained⟩ := env
  rw [pdTimerDestroy]
  cases hact : tm.active with
  | false =>
      rw [if_neg Bool.false_ne_true]
      simp only [iocpTimerDestroy_idle h hact]
      cases drained <;> simp [released, hact, Ledger.releaseAll]
  | true =>
      rw [if_pos rfl]
      obtain ⟨hs, htm, hno⟩ | ⟨-, hyes, hs, hsound, hidle⟩ :=
        pdTimerStop_cases (a := a) h refused s
      · -- the stop is refused, and the destruction tries again
        obtain ⟨d, hd, hstarted, hqueue⟩ := h.data
        rw [hact] at hstarted hqueue
        simp only [hs, htm]
        cases deleted <;> cases drained <;>
          simp [iocpTimerDestroy, deleteQueueTimer, released, forgets, hact, hd, hstarted, hqueue,
            hno hact, h.watcher, Ledger.releaseAll]
      · simp only [iocpTimerDestroy_idle hsound hidle, hs]
        cases drained <;> simp [released, forgets, hact, hyes, Ledger.releaseAll]

theorem leaves_kind {env : DestroyEnv} {e : Addr × Resource} (h : e ∈ leaves a tm env) :
    e.2 ≠ .stopEvent ∧ e.2 ≠ .watcher ∧ e.2 ≠ .listed := by
  rw [leaves] at h
  split_ifs at h <;> simp only [List.nil_append, List.cons_append, List.mem_cons, List.not_mem_nil,
    or_false] at h
  · rw [h]
    simp
  · rcases h with rfl | rfl | rfl <;> simp
  · rcases h with rfl | rfl <;> simp

/-- What a timer holds is given back, once, or left. -/
theorem kinds_perm (tm : PdTimer IocpTimerData) (env : DestroyEnv) :
    ((kinds tm).map (a, ·)).Perm ((released tm env).map (a, ·) ++ leaves a tm env) := by
  have hactive : forgets tm env = true → tm.active = true := by
    intro hf
    rw [forgets, Bool.and_eq_true, Bool.and_eq_true] at hf
    exact hf.1.1
  have hperm : ((kinds tm).Perm (released tm env ++
      ((if forgets tm env then [Resource.queueTimer] else []) ++
        if env.drained then [] else [Resource.timerData, .timer]))) := by
    rw [kinds, released]
    generalize forgets tm env = f at hactive
    generalize env.drained = drained
    cases hact : tm.active with
    | true => cases f <;> cases drained <;> decide
    | false =>
        rw [hact] at hactive
        cases f with
        | true => exact absurd (hactive rfl) Bool.false_ne_true
        | false => cases drained <;> decide
  have hmap := hperm.map (a, ·)
  rw [List.map_append] at hmap
  refine hmap.trans (List.Perm.of_eq ?_)
  rw [leaves]
  split_ifs <;> rfl

theorem pdTimerDestroy_perm {rest : List (Addr × Resource)} (h : Sound tm) (env : DestroyEnv)
    (hheld : s.held.Perm (resources (a, tm) ++ rest)) :
    (pdTimerDestroy a tm env s).held.Perm (leaves a tm env ++ rest) ∧
      (pdTimerDestroy a tm env s).misused = s.misused := by
  rw [pdTimerDestroy_eq h]
  refine Ledger.releaseAll_perm (hheld.trans ?_)
  rw [← List.append_assoc]
  exact (kinds_perm tm env).append_right rest

end

/-! ### Every run -/

/-- The ledger lists what the timers hold and what is left. -/
structure Balanced (s : Process) : Prop where
  ledger : Ledger.Balanced Prod.fst (fun e => kinds e.2) s.ledger s.timers s.left
  sound : ∀ e ∈ s.timers, Sound e.2
  left : ∀ e ∈ s.left, e.2 ≠ .stopEvent ∧ e.2 ≠ .watcher ∧ e.2 ≠ .listed

section

variable {s : Process} {a : Addr} {tm tm' : PdTimer IocpTimerData} {ledger : Ledger}

theorem find_eq_some {e : Addr × PdTimer IocpTimerData} (h : s.find a = some e) :
    e ∈ s.timers ∧ e.1 = a :=
  ⟨List.mem_of_find?_eq_some h, by simpa using List.find?_some h⟩

/-- A timer is overwritten, and the ledger is brought up to date. -/
theorem Balanced.put (h : Balanced s) (he : (a, tm) ∈ s.timers) (hsound : Sound tm')
    (hheld : ledger.held.Perm (resources (a, tm') ++
      ((Ledger.others Prod.fst s.timers (a, tm)).flatMap resources ++ s.left)))
    (hmis : ledger.misused = false) : Balanced ⟨ledger, s.put a tm', s.left⟩ := by
  have hput : Ledger.Balanced Prod.fst (fun e => kinds e.2) ledger
      ((a, tm') :: Ledger.others Prod.fst s.timers (a, tm)) s.left :=
    h.ledger.put he rfl hheld hmis
  refine ⟨hput, fun e hmem => ?_, h.left⟩
  rcases List.mem_cons.1 hmem with rfl | hmem
  · exact hsound
  · exact h.sound e (List.mem_of_mem_filter hmem)

/-- A call that changes nothing. -/
theorem Balanced.same (h : Balanced s) (he : (a, tm) ∈ s.timers) :
    Balanced ⟨s.ledger, s.put a tm, s.left⟩ :=
  h.put he (h.sound _ he) (h.ledger.rest he) h.ledger.misused

/-- The address of a new timer is not that of another. -/
theorem Balanced.new (h : Balanced s) (ha : (a, Resource.timer) ∉ s.ledger.held) :
    ∀ e ∈ s.timers, e.1 ≠ a := by
  rintro e he rfl
  refine ha (h.ledger.held.mem_iff.2 (List.mem_append_left _ (List.mem_flatMap.2 ⟨e, he, ?_⟩)))
  exact List.mem_map.2 ⟨.timer, by simp [kinds], rfl⟩

/-- What one action preserves. -/
theorem Balanced.perform (h : Balanced s) (act : Action) : Balanced (s.perform act) := by
  cases act with
  | create timeoutMs intervalMs callback userData g p =>
      rw [Process.perform]
      obtain hnone | ⟨e, hsome, hp, hsound⟩ := pdTimerCreate_spec (s := s.ledger) timeoutMs
        intervalMs callback userData g
        (p.filter fun a => a ≠ NULL ∧ (a, Resource.timer) ∉ s.ledger.held)
      · rw [hnone]
        exact h
      · rw [hsome]
        rw [Option.filter_eq_some_iff] at hp
        refine ⟨h.ledger.add (h.new (of_decide_eq_true hp.2).2), fun x hx => ?_, h.left⟩
        rcases List.mem_cons.1 hx with rfl | hx
        · exact hsound
        · exact h.sound x hx
  | start a refused =>
      rw [Process.perform]
      cases hf : s.find a with
      | none => exact h
      | some e =>
          obtain ⟨a, tm⟩ := e
          obtain ⟨he, rfl⟩ := find_eq_some hf
          dsimp only
          obtain ⟨hs, htm⟩ | ⟨hidle, hs, hsound, hact⟩ :=
            pdTimerStart_cases (a := a) (h.sound _ he) refused s.ledger
          · rw [hs, htm]
            exact h.same he
          · refine h.put he hsound ?_ (by rw [hs]; exact h.ledger.misused)
            have hrest := (h.ledger.rest he).cons (a, Resource.queueTimer)
            rw [Ledger.entries, kinds, hidle] at hrest
            rw [hs, resources, Ledger.entries, kinds, hact]
            exact hrest
  | stop a refused =>
      rw [Process.perform]
      cases hf : s.find a with
      | none => exact h
      | some e =>
          obtain ⟨a, tm⟩ := e
          obtain ⟨he, rfl⟩ := find_eq_some hf
          dsimp only
          obtain ⟨hs, htm, -⟩ | ⟨hact, -, hs, hsound, hidle⟩ :=
            pdTimerStop_cases (a := a) (h.sound _ he) refused s.ledger
          · rw [hs, htm]
            exact h.same he
          · have hrest := h.ledger.rest he
            rw [Ledger.entries, kinds, hact] at hrest
            obtain ⟨hheld, hmis⟩ := Ledger.release_perm hrest
            refine h.put he hsound ?_ (by rw [hs]; exact hmis.trans h.ledger.misused)
            rw [hs, resources, Ledger.entries, kinds, hidle]
            exact hheld
  | destroy a env =>
      rw [Process.perform]
      cases hf : s.find a with
      | none => exact h
      | some e =>
          obtain ⟨a, tm⟩ := e
          obtain ⟨he, rfl⟩ := find_eq_some hf
          obtain ⟨hheld, hmis⟩ := pdTimerDestroy_perm (h.sound _ he) env (h.ledger.rest he)
          refine ⟨h.ledger.drop he (hheld.trans ?_) (hmis.trans h.ledger.misused),
            fun x hx => h.sound x (List.mem_of_mem_filter hx), fun x hx => ?_⟩
          · rw [← List.append_assoc, ← List.append_assoc]
            exact List.perm_append_comm.append_right s.left
          · rcases List.mem_append.1 hx with hx | hx
            · exact leaves_kind hx
            · exact h.left x hx

end

/-- **What is held is what the timers hold and what destructions have left**, and nothing is
given back twice.  A destruction leaves no event, no watcher and no place in the list. -/
theorem timers_balanced {s : Process} (h : processes.Reachable s) :
    s.ledger.held.Perm (s.timers.flatMap resources ++ s.left) ∧ s.ledger.misused = false ∧
      ∀ e ∈ s.left, e.2 ≠ .stopEvent ∧ e.2 ≠ .watcher ∧ e.2 ≠ .listed := by
  have hbal : Balanced s := by
    refine h.invariant ?_ ?_
    · rintro s rfl
      exact ⟨.empty _ _, fun e he => absurd he (by simp [Process.empty]),
        fun e he => absurd he (by simp [Process.empty])⟩
    · intro s act s' hi _ hstep
      obtain rfl := Option.some.inj hstep
      exact hi.perform act
  exact ⟨hbal.ledger.held, hbal.ledger.misused, hbal.left⟩

/-- A timer is refused its watcher; the next one is started, and destroyed without a drain;
then there is a third one. -/
def undrained : List Action :=
  let g : Grants := ⟨true, true, some 2, true⟩
  [.create 5 5 (some (.user 0)) 0 { g with watcher := none } (some 1),
    .create 5 5 (some (.user 0)) 0 g (some 1), .start 1 none, .destroy 1 ⟨none, true, false⟩,
    .create 5 5 (some (.user 0)) 0 g (some 3), .start 3 none]

theorem undrained_balanced :
    ∃ s, Machine.run (fun s act => some (Process.perform s act)) Process.empty undrained = some s ∧
      s.timers.map Prod.fst = [3] ∧ s.left = [(1, .timerData), (1, .timer)] ∧
      s.ledger.held.Perm (s.timers.flatMap resources ++ s.left) ∧ s.ledger.misused = false ∧
      ∀ e ∈ s.left, e.2 ≠ .stopEvent ∧ e.2 ≠ .watcher ∧ e.2 ≠ .listed := by
  obtain ⟨s, hrun, htimers, hleft⟩ : ∃ s,
      Machine.run (fun s act => some (Process.perform s act)) Process.empty undrained = some s ∧
        s.timers.map Prod.fst = [3] ∧ s.left = [(1, .timerData), (1, .timer)] :=
    ⟨_, rfl, by decide, by decide⟩
  exact ⟨s, hrun, htimers, hleft, timers_balanced (Machine.Reach.run (.init rfl) hrun)⟩

end TimerResources
end Iocp
end PollDancer
