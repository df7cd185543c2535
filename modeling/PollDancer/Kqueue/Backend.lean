/-
# The kqueue backend

`kqueue_watcher_register`, `kqueue_watcher_update` and `kqueue_watcher_unregister` of
`src/platform/kqueue.c`, over a kernel that keeps one filter for each descriptor and
kind.  The backend has the same table of registrations as epoll: registering evicts
another watcher's record of the same descriptor, unregistering searches by watcher
and deletes by descriptor.

`kevent` applies a list of changes in order and stops at the first that fails; the
changes before it stay applied.
-/
import PollDancer.Library.Registry
import PollDancer.Watcher

namespace PollDancer
namespace Kqueue

open Library

/-- The `errno` values the backend meets. -/
inductive Errno
  | EBADF
  | ENOENT
  | ENOMEM
  | EINVAL
  | EINTR
  deriving DecidableEq, Repr

/-- The filters the library uses. -/
inductive Filter
  | read
  | write
  | timer
  | user
  deriving DecidableEq, Repr

/-- A filter on a descriptor: its `udata`, and whether it is enabled and cleared
after retrieval. -/
structure Knote where
  udata : Addr
  enabled : Bool
  clear : Bool
  deriving DecidableEq, Repr

/-- An `EVFILT_TIMER` filter, whose identifier is the timer. -/
structure TimerKnote where
  oneshot : Bool
  period : UInt64
  deriving DecidableEq, Repr

/-- The kernel state behind one kqueue. -/
structure Kernel where
  isOpen : ℤ → Bool
  knotes : ℤ → Filter → Option Knote
  timers : Addr → Option TimerKnote

/-- A change to a filter on a descriptor, as `EV_SET` fills it in. -/
inductive Change
  /-- `EV_ADD | EV_ENABLE`, with `EV_CLEAR` for edge triggering. -/
  | add (fd : ℤ) (filter : Filter) (clear : Bool) (udata : Addr)
  | disable (fd : ℤ) (filter : Filter)
  | delete (fd : ℤ) (filter : Filter)
  deriving DecidableEq, Repr

namespace Kernel

/-- The filter of one descriptor is set or removed. -/
def setKnote (k : Kernel) (fd : ℤ) (filter : Filter) (n : Option Knote) : Kernel :=
  { k with knotes := Function.update k.knotes fd (Function.update (k.knotes fd) filter n) }

/-- One change.  `refused` is the kernel's other reason to refuse an `EV_ADD`. -/
def change (k : Kernel) (refused : Option Errno) : Change → Except Errno Kernel
  | .add fd filter clear udata =>
      if !k.isOpen fd then .error .EBADF
      else match refused with
        | some e => .error e
        | none => .ok (k.setKnote fd filter (some ⟨udata, true, clear⟩))
  | .disable fd filter =>
      if !k.isOpen fd then .error .EBADF
      else match k.knotes fd filter with
        | none => .error .ENOENT
        | some n => .ok (k.setKnote fd filter (some { n with enabled := false }))
  | .delete fd filter =>
      if !k.isOpen fd then .error .EBADF
      else match k.knotes fd filter with
        | none => .error .ENOENT
        | some _ => .ok (k.setKnote fd filter none)

/-- `kevent` with a list of changes and no room for events. -/
def kevent (k : Kernel) (refused : Change → Option Errno) : List Change → Kernel × Option Errno
  | [] => (k, none)
  | c :: cs =>
    match k.change (refused c) c with
    | .error e => (k, some e)
    | .ok k => kevent k refused cs

/-- The last reference to a descriptor is closed: its filters go. -/
def close (k : Kernel) (fd : ℤ) : Kernel :=
  { k with
    isOpen := Function.update k.isOpen fd false
    knotes := Function.update k.knotes fd fun _ => none }

/-- A new file gets the descriptor number `fd`. -/
def openFd (k : Kernel) (fd : ℤ) : Kernel :=
  { k with isOpen := Function.update k.isOpen fd true }

end Kernel

/-- `pd_kqueue_registration_t`. -/
structure Registration where
  ident : ℤ
  watcher : Addr
  deriving DecidableEq, Repr

/-- The part of `pd_kqueue_data_t` that registration uses. -/
structure KqueueData where
  registrations : List Registration
  registrationCapacity : ℕ
  deriving DecidableEq, Repr

/-- `pd_kqueue_watcher_data_t`; a zeroed `struct kevent` is `none`. -/
structure KqueueWatcherData where
  kevRead : Option Change
  kevWrite : Option Change
  deriving DecidableEq, Repr

/-- `pd_kqueue_timer_data_t`. -/
structure KqueueTimerData where
  registered : Bool
  pendingInitial : Bool
  deriving DecidableEq, Repr

/-- What the backend reaches from the loop. -/
structure KqueueSys where
  data : Option KqueueData
  kernel : Kernel
  systemError : Option Errno
  timers : Addr → Option (PdTimer KqueueTimerData)

/-- The answers of the environment during a call. -/
structure KqueueEnv where
  dataAlloc : Bool
  refusedRead : Option Errno
  refusedWrite : Option Errno
  growTable : Bool
  deriving DecidableEq, Repr

/-- Why the kernel refuses a change that it could make. -/
def KqueueEnv.refused (env : KqueueEnv) : Change → Option Errno
  | .add _ .read _ _ => env.refusedRead
  | .add _ .write _ _ => env.refusedWrite
  | _ => none

namespace KqueueSys

/-- `pd_set_system_error`. -/
def setError (k : KqueueSys) (e : Errno) : KqueueSys := { k with systemError := some e }

/-- The records are replaced. -/
def setData (k : KqueueSys) (d : KqueueData) : KqueueSys := { k with data := some d }

/-- The kernel is replaced. -/
def setKernel (k : KqueueSys) (kernel : Kernel) : KqueueSys := { k with kernel }

end KqueueSys

/-- The filter that `events` asks for, if it asks for it. -/
def addFilter (fd : ℤ) (filter : Filter) (bit events : PdEvent) (w : Addr) : Option Change :=
  if events.has bit then some (.add fd filter (events.has .edge) w) else none

/-- The first record that names the descriptor for a different watcher is removed. -/
def evictStale (d : KqueueData) (fd : ℤ) (w : Addr) : KqueueData :=
  { d with
    registrations := evictOther Registration.ident Registration.watcher fd w d.registrations }

/-- `kqueue_watcher_register`. -/
def kqueueWatcherRegister (k : KqueueSys) (a : Addr) (w : PdWatcher KqueueWatcherData)
    (env : KqueueEnv) : OpResult KqueueSys KqueueWatcherData :=
  match k.data with
  | none => ⟨k, w.platformData, .loopClosed⟩
  | some d =>
    if !env.dataAlloc then ⟨k.setError .ENOMEM, w.platformData, .noMemory⟩
    else
      let d := evictStale d w.fd a
      let kevRead := addFilter w.fd .read .read w.events a
      let kevWrite := addFilter w.fd .write .write w.events a
      match k.kernel.kevent env.refused (kevRead.toList ++ kevWrite.toList) with
      | (kernel, some e) =>
        ⟨((k.setKernel kernel).setData d).setError e, w.platformData, .system⟩
      | (kernel, none) =>
        let recorded : List Registration := d.registrations ++ [⟨w.fd, a⟩]
        if d.registrations.length ≥ d.registrationCapacity then
          if env.growTable then
            let newCap := if d.registrationCapacity = 0 then 8 else d.registrationCapacity * 2
            ⟨(k.setKernel kernel).setData ⟨recorded, newCap⟩, some ⟨kevRead, kevWrite⟩, .ok⟩
          else
            -- untracked: undo the filters; the result is ignored
            let undo := (if kevRead.isSome then [Change.delete w.fd .read] else []) ++
              (if kevWrite.isSome then [Change.delete w.fd .write] else [])
            let kernel := (kernel.kevent (fun _ => none) undo).1
            ⟨((k.setKernel kernel).setData d).setError .ENOMEM, w.platformData, .noMemory⟩
        else
          ⟨(k.setKernel kernel).setData { d with registrations := recorded },
            some ⟨kevRead, kevWrite⟩, .ok⟩

/-- `kqueue_watcher_register_handle_unused`. -/
def kqueueWatcherRegisterHandleUnused (k : KqueueSys) (_ : Addr)
    (w : PdWatcher KqueueWatcherData) (_ : KqueueEnv) : OpResult KqueueSys KqueueWatcherData :=
  ⟨k, w.platformData, .notImplemented⟩

/-- The change of one filter in `kqueue_watcher_update`: disable it when the new events
drop it.  `old` is what `watcher->events` holds during the call. -/
def disableFilter (fd : ℤ) (filter : Filter) (bit old events : PdEvent) : List Change :=
  if old.has bit && !events.has bit then [.disable fd filter] else []

/-- The change of one filter in `kqueue_watcher_update`: enable it when the new events
add it. -/
def enableFilter (fd : ℤ) (filter : Filter) (bit old events : PdEvent) (w : Addr) : List Change :=
  if events.has bit && !old.has bit then [.add fd filter (events.has .edge) w] else []

/-- `kqueue_watcher_update`. -/
def kqueueWatcherUpdate (k : KqueueSys) (a : Addr) (w : PdWatcher KqueueWatcherData)
    (events : PdEvent) (env : KqueueEnv) : OpResult KqueueSys KqueueWatcherData :=
  match k.data with
  | none => ⟨k, w.platformData, .loopClosed⟩
  | some _ =>
    match w.platformData with
    | none => ⟨k, none, .invalidArg⟩
    | some wd =>
      let changes := disableFilter w.fd .read .read w.events events ++
        disableFilter w.fd .write .write w.events events ++
        enableFilter w.fd .read .read w.events events a ++
        enableFilter w.fd .write .write w.events events a
      match k.kernel.kevent env.refused changes with
      | (kernel, some e) => ⟨(k.setKernel kernel).setError e, some wd, .system⟩
      | (kernel, none) =>
        let kevRead := (addFilter w.fd .read .read events a).or wd.kevRead
        let kevWrite := (addFilter w.fd .write .write events a).or wd.kevWrite
        ⟨k.setKernel kernel, some ⟨kevRead, kevWrite⟩, .ok⟩

/-- `kqueue_watcher_unregister`. -/
def kqueueWatcherUnregister (k : KqueueSys) (a : Addr) (w : PdWatcher KqueueWatcherData) :
    OpResult KqueueSys KqueueWatcherData :=
  match k.data with
  | none => ⟨k, w.platformData, .loopClosed⟩
  | some d =>
    match w.platformData with
    | none => ⟨k, none, .invalidArg⟩
    | some _ =>
      match d.registrations.findIdx? (fun r => r.watcher == a) with
      | none => ⟨k, none, .ok⟩
      | some i =>
        let changes := (if w.events.has .read then [Change.delete w.fd .read] else []) ++
          (if w.events.has .write then [Change.delete w.fd .write] else [])
        -- errors are ignored: the descriptor may have been closed
        let kernel := (k.kernel.kevent (fun _ => none) changes).1
        ⟨(k.setKernel kernel).setData { d with registrations := swapRemove d.registrations i },
          none, .ok⟩

/-- The watcher part of `pd_platform_kqueue`. -/
def kqueueOps : PlatformOps KqueueSys KqueueWatcherData KqueueEnv where
  watcherRegister := kqueueWatcherRegister
  watcherRegisterHandle := kqueueWatcherRegisterHandleUnused
  watcherUpdate := kqueueWatcherUpdate
  watcherUnregister := kqueueWatcherUnregister

/-- The state of a kqueue loop. -/
abbrev KqueueWorld := World KqueueSys KqueueWatcherData

/-- `pd_loop_create` with `kqueue_loop_create`; `isOpen` are the descriptors open in the
process. -/
def kqueueLoopCreate (isOpen : ℤ → Bool) : KqueueWorld where
  heap := fun _ => none
  loop := PdLoop.create
  sys :=
    { data := some { registrations := [], registrationCapacity := 0 }
      kernel := { isOpen, knotes := fun _ _ => none, timers := fun _ => none }
      systemError := none
      timers := fun _ => none }
  destroyed := []

end Kqueue
end PollDancer
