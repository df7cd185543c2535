/-
# The generic watcher layer

`src/watcher.c` over an arbitrary backend.  A backend is the vtable
`pd_platform_ops_t`: its functions see the backend's own state `κ` (what hangs
off `loop->platform_data`, and the kernel behind it) and the watcher they are
called for, and answer with the new state, the watcher's new `platform_data`
and an error code.  They have no other access to the watcher or to the watcher
list, so what the generic layer does to these is the same on every backend.

What the environment decides during a call (whether an allocation succeeds and
at which address, whether the kernel refuses) is an argument of the call, so a
run is determined by its calls and every outcome is some run.
-/
import PollDancer.WatcherList

namespace PollDancer

/-- What a backend function returns: the backend state, the watcher's
`platform_data`, and the error code. -/
structure OpResult (κ δ : Type) where
  sys : κ
  platformData : Option δ
  code : PdError

/-- The watcher operations of `pd_platform_ops_t`. -/
structure PlatformOps (κ δ ω : Type) where
  watcherRegister : κ → Addr → PdWatcher δ → ω → OpResult κ δ
  watcherRegisterHandle : κ → Addr → PdWatcher δ → ω → OpResult κ δ
  watcherUpdate : κ → Addr → PdWatcher δ → PdEvent → ω → OpResult κ δ
  watcherUnregister : κ → Addr → PdWatcher δ → OpResult κ δ

/-- The answers of the environment during one call: the address `calloc` returns
for a new watcher (`none`: no memory), whether `realloc` can grow the watcher
list, and what the backend asks for. -/
structure CallEnv (ω : Type) where
  calloc : Option Addr
  growList : Bool
  backend : ω
  deriving DecidableEq

/-- A loop, the watchers allocated on it, and its backend.  `destroyed` records
the watchers `pd_watcher_destroy` has freed, latest first; the code does not
have it. -/
structure World (κ δ : Type) where
  heap : Addr → Option (PdWatcher δ)
  loop : PdLoop
  sys : κ
  destroyed : List Addr

/-- The calls a user of the library makes on watchers. -/
inductive Call (ω : Type)
  | create (fd : ℤ) (events : PdEvent) (callback : Option Callback) (userData : Addr)
      (env : CallEnv ω)
  | createForHandle (handle : Handle) (events : PdEvent) (callback : Option Callback)
      (userData : Addr) (env : CallEnv ω)
  | update (w : Addr) (events : PdEvent) (env : ω)
  | stop (w : Addr)
  | start (w : Addr) (env : ω)
  | destroy (w : Addr)
  deriving DecidableEq

/-- The watcher a call is made on. -/
def Call.target {ω : Type} : Call ω → Option Addr
  | .create .. => none
  | .createForHandle .. => none
  | .update w _ _ => some w
  | .stop w => some w
  | .start w _ => some w
  | .destroy w => some w

/-- What a call returns to its caller. -/
inductive Reply
  | handle (w : Option Addr)
  | code (r : PdError)
  | unit
  deriving DecidableEq, Repr

variable {κ δ ω : Type}

namespace World

/-- The watcher structure at `a` is overwritten, or allocated. -/
def setWatcher (s : World κ δ) (a : Addr) (w : PdWatcher δ) : World κ δ :=
  { s with heap := Function.update s.heap a (some w) }

/-- The backend's state is replaced. -/
def setSys (s : World κ δ) (sys : κ) : World κ δ := { s with sys }

/-- The watcher list is replaced. -/
def setLoop (s : World κ δ) (loop : PdLoop) : World κ δ := { s with loop }

/-- `calloc` of a watcher: it returns no memory, or an address that is not
`NULL` and at which no watcher is allocated. -/
def calloc (s : World κ δ) (p : Option Addr) : Option Addr :=
  p.filter fun a => a ≠ NULL ∧ (s.heap a).isNone

@[simp]
theorem setWatcher_heap_self (s : World κ δ) (a : Addr) (w : PdWatcher δ) :
    (s.setWatcher a w).heap a = some w :=
  Function.update_self ..

theorem setWatcher_heap_ne (s : World κ δ) {a b : Addr} (w : PdWatcher δ) (h : b ≠ a) :
    (s.setWatcher a w).heap b = s.heap b :=
  Function.update_of_ne h ..

@[simp]
theorem setWatcher_loop (s : World κ δ) (a : Addr) (w : PdWatcher δ) :
    (s.setWatcher a w).loop = s.loop := rfl

@[simp]
theorem setWatcher_sys (s : World κ δ) (a : Addr) (w : PdWatcher δ) :
    (s.setWatcher a w).sys = s.sys := rfl

@[simp]
theorem setWatcher_destroyed (s : World κ δ) (a : Addr) (w : PdWatcher δ) :
    (s.setWatcher a w).destroyed = s.destroyed := rfl

@[simp]
theorem setSys_heap (s : World κ δ) (sys : κ) : (s.setSys sys).heap = s.heap := rfl

@[simp]
theorem setSys_loop (s : World κ δ) (sys : κ) : (s.setSys sys).loop = s.loop := rfl

@[simp]
theorem setSys_sys (s : World κ δ) (sys : κ) : (s.setSys sys).sys = sys := rfl

@[simp]
theorem setSys_destroyed (s : World κ δ) (sys : κ) : (s.setSys sys).destroyed = s.destroyed := rfl

@[simp]
theorem setLoop_heap (s : World κ δ) (l : PdLoop) : (s.setLoop l).heap = s.heap := rfl

@[simp]
theorem setLoop_loop (s : World κ δ) (l : PdLoop) : (s.setLoop l).loop = l := rfl

@[simp]
theorem setLoop_sys (s : World κ δ) (l : PdLoop) : (s.setLoop l).sys = s.sys := rfl

@[simp]
theorem setLoop_destroyed (s : World κ δ) (l : PdLoop) :
    (s.setLoop l).destroyed = s.destroyed := rfl

theorem calloc_eq_some {s : World κ δ} {p : Option Addr} {a : Addr} :
    s.calloc p = some a ↔ p = some a ∧ a ≠ NULL ∧ s.heap a = none := by
  simp [calloc, Option.filter_eq_some_iff]

end World

/-- The state, the watcher structure and the code with which an initialisation
ends.  The structure is in the heap only once the caller has kept it. -/
structure InitResult (κ δ : Type) where
  world : World κ δ
  watcher : PdWatcher δ
  code : PdError

/-- The end of `pd_watcher_init` and of `pd_watcher_create_for_handle`: with the
watcher registered, append it to the loop's list, and unregister it again when
the list cannot grow. -/
def pdWatcherEnlist (ops : PlatformOps κ δ ω) (s : World κ δ) (a : Addr) (w : PdWatcher δ)
    (growList : Bool) : InitResult κ δ :=
  let added := pdLoopAddWatcher s.loop a growList
  if added.2 ≠ .ok then
    let undone := ops.watcherUnregister s.sys a w
    ⟨(s.setLoop added.1).setSys undone.sys, { w with platformData := undone.platformData },
      added.2⟩
  else ⟨s.setLoop added.1, w, .ok⟩

/-- The structure `pd_watcher_init` fills in. -/
def newWatcher (fd : ℤ) (events : PdEvent) (callback : Option Callback) (userData : Addr) :
    PdWatcher δ :=
  { fd, handle := NULL, isHandle := false, events, callback, userData, active := true,
    platformData := none }

/-- `pd_watcher_init` on the zeroed structure at `a`. -/
def pdWatcherInit (ops : PlatformOps κ δ ω) (s : World κ δ) (a : Addr) (fd : ℤ)
    (events : PdEvent) (callback : Option Callback) (userData : Addr) (env : CallEnv ω) :
    InitResult κ δ :=
  let w : PdWatcher δ := newWatcher fd events callback userData
  let r := ops.watcherRegister s.sys a w env.backend
  let w := { w with platformData := r.platformData }
  if r.code ≠ .ok then ⟨s.setSys r.sys, w, r.code⟩
  else pdWatcherEnlist ops (s.setSys r.sys) a w env.growList

/-- `pd_watcher_create`. -/
def pdWatcherCreate (ops : PlatformOps κ δ ω) (s : World κ δ) (fd : ℤ) (events : PdEvent)
    (callback : Option Callback) (userData : Addr) (env : CallEnv ω) :
    World κ δ × Option Addr :=
  match s.calloc env.calloc with
  | none => (s, none)
  | some a =>
    let r := pdWatcherInit ops s a fd events callback userData env
    if r.code ≠ .ok then (r.world, none)
    else (r.world.setWatcher a r.watcher, some a)

/-- `pd_watcher_create_for_handle`. -/
def pdWatcherCreateForHandle (ops : PlatformOps κ δ ω) (s : World κ δ) (handle : Handle)
    (events : PdEvent) (callback : Option Callback) (userData : Addr) (env : CallEnv ω) :
    World κ δ × Option Addr :=
  match s.calloc env.calloc with
  | none => (s, none)
  | some a =>
    let w : PdWatcher δ :=
      { fd := -1, handle, isHandle := true, events, callback, userData, active := true,
        platformData := none }
    let r := ops.watcherRegisterHandle s.sys a w env.backend
    if r.code ≠ .ok then (s.setSys r.sys, none)
    else
      let r := pdWatcherEnlist ops (s.setSys r.sys) a { w with platformData := r.platformData }
        env.growList
      if r.code ≠ .ok then (r.world, none)
      else (r.world.setWatcher a r.watcher, some a)

/-- `pd_watcher_cleanup`. -/
def pdWatcherCleanup (ops : PlatformOps κ δ ω) (s : World κ δ) (a : Addr) : World κ δ :=
  match s.heap a with
  | none => s
  | some w =>
    let r := ops.watcherUnregister s.sys a w
    let s := (s.setWatcher a { w with platformData := r.platformData }).setSys r.sys
    s.setLoop (pdLoopRemoveWatcher s.loop a).1

/-- `pd_watcher_update`. -/
def pdWatcherUpdate (ops : PlatformOps κ δ ω) (s : World κ δ) (a : Addr) (events : PdEvent)
    (env : ω) : World κ δ × PdError :=
  match s.heap a with
  | none => (s, .invalidArg)
  | some w =>
    if !w.active then (s, .watcherStopped)
    else
      let w := { w with events }
      let r := ops.watcherUpdate s.sys a w events env
      ((s.setWatcher a { w with platformData := r.platformData }).setSys r.sys, r.code)

/-- `pd_watcher_stop`. -/
def pdWatcherStop (ops : PlatformOps κ δ ω) (s : World κ δ) (a : Addr) : World κ δ × PdError :=
  match s.heap a with
  | none => (s, .invalidArg)
  | some w =>
    if !w.active then (s, .ok)
    else
      let w := { w with active := false }
      let r := ops.watcherUnregister s.sys a w
      let w := { w with platformData := r.platformData }
      if r.code ≠ .ok then
        ((s.setWatcher a { w with active := true }).setSys r.sys, r.code)
      else ((s.setWatcher a w).setSys r.sys, .ok)

/-- `pd_watcher_start`. -/
def pdWatcherStart (ops : PlatformOps κ δ ω) (s : World κ δ) (a : Addr) (env : ω) :
    World κ δ × PdError :=
  match s.heap a with
  | none => (s, .invalidArg)
  | some w =>
    if w.active then (s, .ok)
    else
      let w := { w with active := true }
      let r := ops.watcherRegister s.sys a w env
      let w := { w with platformData := r.platformData }
      if r.code ≠ .ok then
        ((s.setWatcher a { w with active := false }).setSys r.sys, r.code)
      else ((s.setWatcher a w).setSys r.sys, .ok)

/-- `free(watcher)` at the end of `pd_watcher_destroy`. -/
def World.free (s : World κ δ) (a : Addr) : World κ δ :=
  { s with heap := Function.update s.heap a none, destroyed := a :: s.destroyed }

/-- `pd_watcher_destroy`. -/
def pdWatcherDestroy (ops : PlatformOps κ δ ω) (s : World κ δ) (a : Addr) : World κ δ :=
  match s.heap a with
  | none => s
  | some _ => (pdWatcherCleanup ops (pdWatcherStop ops s a).1 a).free a

/-- One call and its reply.  A call on a handle that is not allocated is a misuse
that no run makes; here it does nothing. -/
def World.exec (ops : PlatformOps κ δ ω) (s : World κ δ) : Call ω → World κ δ × Reply
  | .create fd events callback userData env =>
      let r := pdWatcherCreate ops s fd events callback userData env
      (r.1, .handle r.2)
  | .createForHandle handle events callback userData env =>
      let r := pdWatcherCreateForHandle ops s handle events callback userData env
      (r.1, .handle r.2)
  | .update w events env =>
      let r := pdWatcherUpdate ops s w events env
      (r.1, .code r.2)
  | .stop w =>
      let r := pdWatcherStop ops s w
      (r.1, .code r.2)
  | .start w env =>
      let r := pdWatcherStart ops s w env
      (r.1, .code r.2)
  | .destroy w => (pdWatcherDestroy ops s w, .unit)

/-- A call on a handle that is not allocated does nothing. -/
theorem World.exec_of_not_live {ops : PlatformOps κ δ ω} {s : World κ δ} {a : Addr} {c : Call ω}
    (hc : c.target = some a) (hw : s.heap a = none) : (s.exec ops c).1 = s := by
  cases c with
  | create => exact nomatch hc
  | createForHandle => exact nomatch hc
  | update b events env =>
      obtain rfl := Option.some.inj hc
      simp [World.exec, pdWatcherUpdate, hw]
  | stop b =>
      obtain rfl := Option.some.inj hc
      simp [World.exec, pdWatcherStop, hw]
  | start b env =>
      obtain rfl := Option.some.inj hc
      simp [World.exec, pdWatcherStart, hw]
  | destroy b =>
      obtain rfl := Option.some.inj hc
      simp [World.exec, pdWatcherDestroy, hw]

/-! ### The outcomes of each call, by the backend's answer -/

section Outcomes

variable {ops : PlatformOps κ δ ω} {s : World κ δ} {a : Addr} {w : PdWatcher δ} {r : OpResult κ δ}

theorem stop_of_inactive (hw : s.heap a = some w) (hact : w.active = false) :
    pdWatcherStop ops s a = (s, .ok) := by
  simp [pdWatcherStop, hw, hact]

/-- The backend has unregistered the watcher. -/
theorem stop_of_ok (hw : s.heap a = some w) (hact : w.active = true)
    (hr : ops.watcherUnregister s.sys a { w with active := false } = r) (hok : r.code = .ok) :
    pdWatcherStop ops s a =
      ((s.setWatcher a { w with active := false, platformData := r.platformData }).setSys r.sys,
        .ok) := by
  subst hr
  simp [pdWatcherStop, hw, hact, hok]

/-- The backend has refused: the watcher is active again. -/
theorem stop_of_ne_ok (hw : s.heap a = some w) (hact : w.active = true)
    (hr : ops.watcherUnregister s.sys a { w with active := false } = r) (hok : r.code ≠ .ok) :
    pdWatcherStop ops s a =
      ((s.setWatcher a { w with active := true, platformData := r.platformData }).setSys r.sys,
        r.code) := by
  subst hr
  simp [pdWatcherStop, hw, hact, hok]

theorem start_of_active (env : ω) (hw : s.heap a = some w) (hact : w.active = true) :
    pdWatcherStart ops s a env = (s, .ok) := by
  simp [pdWatcherStart, hw, hact]

/-- The backend has registered the watcher. -/
theorem start_of_ok {env : ω} (hw : s.heap a = some w) (hact : w.active = false)
    (hr : ops.watcherRegister s.sys a { w with active := true } env = r) (hok : r.code = .ok) :
    pdWatcherStart ops s a env =
      ((s.setWatcher a { w with active := true, platformData := r.platformData }).setSys r.sys,
        .ok) := by
  subst hr
  simp [pdWatcherStart, hw, hact, hok]

/-- The backend has refused: the watcher is inactive again. -/
theorem start_of_ne_ok {env : ω} (hw : s.heap a = some w) (hact : w.active = false)
    (hr : ops.watcherRegister s.sys a { w with active := true } env = r) (hok : r.code ≠ .ok) :
    pdWatcherStart ops s a env =
      ((s.setWatcher a { w with active := false, platformData := r.platformData }).setSys r.sys,
        r.code) := by
  subst hr
  simp [pdWatcherStart, hw, hact, hok]

theorem update_of_inactive {events : PdEvent} {env : ω} (hw : s.heap a = some w)
    (hact : w.active = false) : pdWatcherUpdate ops s a events env = (s, .watcherStopped) := by
  simp [pdWatcherUpdate, hw, hact]

theorem update_of_active {events : PdEvent} {env : ω} (hw : s.heap a = some w)
    (hact : w.active = true)
    (hr : ops.watcherUpdate s.sys a { w with events } events env = r) :
    pdWatcherUpdate ops s a events env =
      ((s.setWatcher a { w with events, platformData := r.platformData }).setSys r.sys,
        r.code) := by
  subst hr
  simp [pdWatcherUpdate, hw, hact]

theorem cleanup_of_some (hw : s.heap a = some w) (hr : ops.watcherUnregister s.sys a w = r) :
    pdWatcherCleanup ops s a =
      ((s.setWatcher a { w with platformData := r.platformData }).setSys r.sys).setLoop
        (pdLoopRemoveWatcher s.loop a).1 := by
  subst hr
  simp [pdWatcherCleanup, hw]

end Outcomes

section Creation

variable {ops : PlatformOps κ δ ω} {s : World κ δ} {a : Addr} {r u : OpResult κ δ} {fd : ℤ}
  {events : PdEvent} {callback : Option Callback} {userData : Addr} {env : CallEnv ω}

/-- No memory for the watcher. -/
theorem create_of_calloc_none (hc : s.calloc env.calloc = none) :
    pdWatcherCreate ops s fd events callback userData env = (s, none) := by
  simp [pdWatcherCreate, hc]

/-- The backend has refused. -/
theorem create_of_ne_ok (hc : s.calloc env.calloc = some a)
    (hr : ops.watcherRegister s.sys a (newWatcher fd events callback userData) env.backend = r)
    (hok : r.code ≠ .ok) :
    pdWatcherCreate ops s fd events callback userData env = (s.setSys r.sys, none) := by
  subst hr
  simp [pdWatcherCreate, pdWatcherInit, hc, hok]

/-- The backend has registered the watcher, but the loop's list cannot grow. -/
theorem create_of_list_full (hc : s.calloc env.calloc = some a)
    (hr : ops.watcherRegister s.sys a (newWatcher fd events callback userData) env.backend = r)
    (hok : r.code = .ok) (hadd : (pdLoopAddWatcher s.loop a env.growList).2 ≠ .ok)
    (hu : ops.watcherUnregister r.sys a
      { (newWatcher fd events callback userData : PdWatcher δ) with
        platformData := r.platformData } = u) :
    pdWatcherCreate ops s fd events callback userData env = (s.setSys u.sys, none) := by
  subst hr hu
  have hl : (pdLoopAddWatcher s.loop a env.growList).1 = s.loop := PdLoop.add_of_ne_ok hadd
  simp [pdWatcherCreate, pdWatcherInit, pdWatcherEnlist, hc, hok, hadd, hl, World.setLoop,
    World.setSys]

/-- The watcher is registered and in the list. -/
theorem create_of_ok (hc : s.calloc env.calloc = some a)
    (hr : ops.watcherRegister s.sys a (newWatcher fd events callback userData) env.backend = r)
    (hok : r.code = .ok) (hadd : (pdLoopAddWatcher s.loop a env.growList).2 = .ok) :
    pdWatcherCreate ops s fd events callback userData env =
      (((s.setSys r.sys).setLoop (pdLoopAddWatcher s.loop a env.growList).1).setWatcher a
        { (newWatcher fd events callback userData : PdWatcher δ) with
          platformData := r.platformData },
        some a) := by
  subst hr
  simp [pdWatcherCreate, pdWatcherInit, pdWatcherEnlist, hc, hok, hadd]

/-- A backend without handle watchers never creates one. -/
theorem createForHandle_of_ne_ok {handle : Handle}
    (hno : ∀ k a w e, (ops.watcherRegisterHandle k a w e).code ≠ .ok ∧
      (ops.watcherRegisterHandle k a w e).sys = k) :
    pdWatcherCreateForHandle ops s handle events callback userData env = (s, none) := by
  unfold pdWatcherCreateForHandle
  cases s.calloc env.calloc with
  | none => rfl
  | some a =>
      simp only [if_pos (hno _ _ _ _).1, (hno _ _ _ _).2]
      rfl

/-- The structure that `pd_watcher_create_for_handle` fills in. -/
def newHandleWatcher (handle : Handle) (events : PdEvent) (callback : Option Callback)
    (userData : Addr) : PdWatcher δ :=
  { fd := -1, handle, isHandle := true, events, callback, userData, active := true,
    platformData := none }

/-- The backend has refused the handle. -/
theorem createForHandle_of_refused {handle : Handle} (hc : s.calloc env.calloc = some a)
    (hr : ops.watcherRegisterHandle s.sys a (newHandleWatcher handle events callback userData)
      env.backend = r) (hok : r.code ≠ .ok) :
    pdWatcherCreateForHandle ops s handle events callback userData env =
      (s.setSys r.sys, none) := by
  subst hr
  rw [newHandleWatcher] at hok
  simp [pdWatcherCreateForHandle, newHandleWatcher, hc, hok]

/-- The handle is registered, but the loop's list cannot grow. -/
theorem createForHandle_of_list_full {handle : Handle} (hc : s.calloc env.calloc = some a)
    (hr : ops.watcherRegisterHandle s.sys a (newHandleWatcher handle events callback userData)
      env.backend = r) (hok : r.code = .ok)
    (hadd : (pdLoopAddWatcher s.loop a env.growList).2 ≠ .ok)
    (hu : ops.watcherUnregister r.sys a
      { (newHandleWatcher handle events callback userData : PdWatcher δ) with
        platformData := r.platformData } = u) :
    pdWatcherCreateForHandle ops s handle events callback userData env =
      (s.setSys u.sys, none) := by
  subst hr hu
  rw [newHandleWatcher] at hok
  have hl : (pdLoopAddWatcher s.loop a env.growList).1 = s.loop := PdLoop.add_of_ne_ok hadd
  simp [pdWatcherCreateForHandle, newHandleWatcher, pdWatcherEnlist, hc, hok, hadd, hl,
    World.setLoop, World.setSys]

/-- The handle is registered and the watcher in the list. -/
theorem createForHandle_of_ok {handle : Handle} (hc : s.calloc env.calloc = some a)
    (hr : ops.watcherRegisterHandle s.sys a (newHandleWatcher handle events callback userData)
      env.backend = r) (hok : r.code = .ok)
    (hadd : (pdLoopAddWatcher s.loop a env.growList).2 = .ok) :
    pdWatcherCreateForHandle ops s handle events callback userData env =
      (((s.setSys r.sys).setLoop (pdLoopAddWatcher s.loop a env.growList).1).setWatcher a
        { (newHandleWatcher handle events callback userData : PdWatcher δ) with
          platformData := r.platformData },
        some a) := by
  subst hr
  rw [newHandleWatcher] at hok
  simp [pdWatcherCreateForHandle, newHandleWatcher, pdWatcherEnlist, hc, hok, hadd]

end Creation
end PollDancer
