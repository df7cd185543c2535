/-
# The public types

`include/poll-dancer/types.h` and `src/internal/watcher.h`: the error codes, the
event masks, and the watcher structure with the data that the three backends
keep behind its `platform_data` pointer left as a parameter.

A pointer is its address, and `NULL` is the address `0`.  `malloc` may hand out
the address of a freed object again, so an address alone does not say which
object was meant.
-/
import Mathlib.Data.Int.Notation
import Mathlib.Data.Nat.Notation
import Mathlib.Logic.Function.Basic
import Mathlib.Tactic.Common

namespace PollDancer

/-- A pointer. -/
abbrev Addr := ℕ

/-- The null pointer. -/
def NULL : Addr := 0

/-- A Windows `HANDLE` or `SOCKET` value. -/
abbrev Handle := ℕ

/-- `pd_error_t`. -/
inductive PdError
  | ok
  | unknown
  | invalidArg
  | noMemory
  | system
  | notImplemented
  | loopClosed
  | watcherStopped
  | alreadyExists
  | notFound
  deriving DecidableEq, Repr

/-- `pd_event_t`: a combination of event bits. -/
abbrev PdEvent := UInt32

namespace PdEvent

/-- `PD_EVENT_NONE`. -/
def none : PdEvent := 0
/-- `PD_EVENT_READ`. -/
def read : PdEvent := 0x01
/-- `PD_EVENT_WRITE`. -/
def write : PdEvent := 0x02
/-- `PD_EVENT_ERROR`. -/
def error : PdEvent := 0x04
/-- `PD_EVENT_HANGUP`. -/
def hangup : PdEvent := 0x08
/-- `PD_EVENT_PRI`. -/
def pri : PdEvent := 0x10
/-- `PD_EVENT_EDGE`. -/
def edge : PdEvent := 0x20

/-- The C test `events & bit`. -/
def has (events bit : PdEvent) : Bool := events &&& bit != 0

end PdEvent

/-- A callback pointer: a function of the user, or the `timerfd_callback` that
the epoll backend installs on a timer's internal watcher. -/
inductive Callback
  | user (f : Addr)
  | timerfd
  deriving DecidableEq, Repr

/-- `struct pd_watcher`.  The field `loop` is left out: every watcher of a model
state belongs to that state's loop, which `pd_watcher_init` stores and nothing
clears, so the `!watcher->loop` tests never fire; `ref_count` is never read. -/
structure PdWatcher (δ : Type) where
  fd : ℤ
  handle : Handle
  isHandle : Bool
  events : PdEvent
  callback : Option Callback
  userData : Addr
  active : Bool
  platformData : Option δ
  deriving DecidableEq, Repr

/-- `struct pd_timer`, with the backend's timer state as a parameter.  `watcher`
is the internal watcher (epoll) or the placeholder (kqueue, IOCP). -/
structure PdTimer (τ : Type) where
  watcher : Option Addr
  timeoutMs : UInt64
  intervalMs : UInt64
  callback : Callback
  userData : Addr
  active : Bool
  ownsWatcher : Bool
  platformData : Option τ
  deriving DecidableEq, Repr

end PollDancer
