/-
# The IOCP backend: registration

`iocp_watcher_register`, `iocp_watcher_register_handle`, `iocp_watcher_update`,
`iocp_watcher_unregister` and `iocp_watcher_drain_read` of `src/platform/iocp.c`, over
handles that are associated with one completion port.

The completion key of a handle is the watcher that registered it, and a handle that is
associated stays so until it is closed.  A read is issued on the `OVERLAPPED` embedded
in the watcher's platform data; its packet names both.  The kernel keeps these
addresses for as long as it likes: freeing a block does not take back a read.

All calls are made on the loop thread here, so `iocp_watcher_unregister` never waits
for a drain.
-/
import PollDancer.Library.Port
import PollDancer.Watcher

namespace PollDancer
namespace Iocp

open Library

/-- A Win32 error code. -/
abbrev WinError := UInt32

/-- `ERROR_INVALID_HANDLE`. -/
def ERROR_INVALID_HANDLE : WinError := 6
/-- `ERROR_INVALID_PARAMETER`. -/
def ERROR_INVALID_PARAMETER : WinError := 87
/-- `ERROR_OPERATION_ABORTED`. -/
def ERROR_OPERATION_ABORTED : UInt32 := 995

/-- An NT status, as it stands in `OVERLAPPED.Internal`. -/
abbrev NtStatus := UInt32

/-- `STATUS_SUCCESS`, also the status of a zeroed `OVERLAPPED`. -/
def STATUS_SUCCESS : NtStatus := 0
/-- `STATUS_PENDING`: the operation is not completed. -/
def STATUS_PENDING : NtStatus := 0x103
/-- `STATUS_CANCELLED`. -/
def STATUS_CANCELLED : NtStatus := 0xC0000120

/-- `INVALID_HANDLE_VALUE`. -/
def INVALID_HANDLE_VALUE : Handle := 0xFFFFFFFFFFFFFFFF

/-- `sizeof(watcher_data->buffer)`. -/
def bufferSize : ℕ := 4096

/-- `pd_iocp_watcher_data_t`: of the `OVERLAPPED` the field `Internal`.  `wsa_buffer`
always describes `buffer` and is left out. -/
structure IocpWatcherData where
  internal : NtStatus
  buffer : List UInt8
  pendingOperation : Bool
  events : PdEvent
  stopping : Bool
  bytesAvailable : ℕ
  deriving DecidableEq, Repr

/-- The `OVERLAPPED` of an operation: the one in a block of watcher data, or one that
the user of the library has supplied. -/
inductive Overlapped
  | data (d : Addr)
  | client
  deriving DecidableEq, Repr

/-- A packet of the port.  The magic keys of the sync and the timer packets are no
addresses of watchers. -/
inductive Packet
  | sync
  /-- `fires`: the timer has a callback and is not being destroyed. -/
  | timer (fires : Bool)
  /-- Key `0` and no `OVERLAPPED`. -/
  | wake
  /-- The completion of an operation, or while it is in flight the operation.  The key
  is `NULL` if its handle is not associated with the port. -/
  | io (key : Addr) (overlapped : Overlapped) (bytes : ℕ)
  deriving DecidableEq, Repr

/-- Is it a read on the `OVERLAPPED` of the block `d`? -/
def Packet.reads (d : Addr) : Packet → Bool
  | .io _ (.data e) _ => e == d
  | _ => false

/-- Does the packet name the watcher? -/
def Packet.names (w : Addr) : Packet → Bool
  | .io key _ _ => key == w && key != NULL
  | _ => false

/-- What the backend reaches from the loop, and the kernel behind it.  The batch of the
port is what remains of `data->events`. -/
structure IocpSys where
  blocks : Addr → Option IocpWatcherData
  isOpen : Handle → Bool
  /-- The completion keys of the handles that are associated with the port. -/
  assoc : Handle → Option Addr
  port : Port Packet
  systemError : Option WinError
  /-- A block has been read that is not allocated. -/
  fault : Bool
  /-- The blocks that were zeroed, moved or handed to a read while another read on them
  was outstanding; the code does not have it. -/
  overlaps : List Addr

/-- The answers of the environment during a call. -/
structure IocpEnv where
  /-- The address `calloc` returns for the platform data. -/
  dataAlloc : Option Addr
  refusedAssociate : Option WinError
  refusedRead : Option WinError
  /-- `GetLastError()` after a failed allocation. -/
  lastError : WinError
  deriving DecidableEq, Repr

namespace IocpSys

/-- How many reads on the block's `OVERLAPPED` the loop has not yet taken up. -/
def outstanding (k : IocpSys) (d : Addr) : ℕ := k.port.count (Packet.reads d)

/-- `pd_set_system_error`. -/
def setError (k : IocpSys) (e : WinError) : IocpSys := { k with systemError := some e }

/-- A block is written. -/
def setBlock (k : IocpSys) (d : Addr) (b : IocpWatcherData) : IocpSys :=
  { k with blocks := Function.update k.blocks d (some b) }

/-- `free(watcher_data)`. -/
def freeBlock (k : IocpSys) (d : Addr) : IocpSys :=
  { k with blocks := Function.update k.blocks d none }

/-- The port is replaced. -/
def setPort (k : IocpSys) (port : Port Packet) : IocpSys := { k with port }

/-- A block is read that is not allocated. -/
def setFault (k : IocpSys) : IocpSys := { k with fault := true }

/-- The memory of a block is about to be written. -/
def touch (k : IocpSys) (d : Addr) : IocpSys :=
  if 0 < k.outstanding d then { k with overlaps := d :: k.overlaps } else k

/-- `calloc` of a block: no memory, or an address that is not `NULL` and at which no
block is allocated. -/
def calloc (k : IocpSys) (p : Option Addr) : Option Addr :=
  p.filter fun d => d ≠ NULL ∧ (k.blocks d).isNone

/-- `CreateIoCompletionPort` with the watcher as the key.  A handle is associated once
in its life. -/
def associate (k : IocpSys) (h : Handle) (w : Addr) (refused : Option WinError) :
    Except WinError IocpSys :=
  if !k.isOpen h then .error ERROR_INVALID_HANDLE
  else if (k.assoc h).isSome then .error ERROR_INVALID_PARAMETER
  else match refused with
    | some e => .error e
    | none => .ok { k with assoc := Function.update k.assoc h (some w) }

/-- `ReadFile` and `WSARecv` on a block whose content is `b`: refused, or in flight.  An
operation that completes at once posts its packet like any other. -/
def issueRead (k : IocpSys) (h : Handle) (d : Addr) (b : IocpWatcherData)
    (refused : Option WinError) : Except WinError IocpSys :=
  if !k.isOpen h then .error ERROR_INVALID_HANDLE
  else match refused with
    | some e => .error e
    | none =>
      .ok (((k.touch d).setBlock d { b with internal := STATUS_PENDING }).setPort
        (k.port.issue (.io ((k.assoc h).getD NULL) (.data d) 0)))

end IocpSys

/-- `fd_to_handle`. -/
def fdToHandle (fd : ℤ) : Handle := (fd % 0x100000000).toNat

/-- `calloc` of the platform data, with the fields that are set before anything else. -/
def newData (events : PdEvent) : IocpWatcherData where
  internal := STATUS_SUCCESS
  buffer := List.replicate bufferSize 0
  pendingOperation := false
  events
  stopping := false
  bytesAvailable := 0

/-- What the two registrations share: allocate the platform data, associate the handle,
issue the first read.  `unassociated` and `unread` are what `platform_data` holds after
a refused association and a refused read. -/
def registerOn (k : IocpSys) (a : Addr) (w : PdWatcher Addr) (h : Handle) (env : IocpEnv)
    (unassociated : Option Addr) (unread : Addr → Option Addr) : OpResult IocpSys Addr :=
  match k.calloc env.dataAlloc with
  | none => ⟨k.setError env.lastError, w.platformData, .noMemory⟩
  | some d =>
    let b := newData w.events
    let k := (k.touch d).setBlock d b
    match k.associate h a env.refusedAssociate with
    | .error e => ⟨(k.setError e).freeBlock d, unassociated, .system⟩
    | .ok k =>
      if w.events.has .read then
        match k.issueRead h d { b with internal := STATUS_SUCCESS } env.refusedRead with
        | .error e => ⟨(k.setError e).freeBlock d, unread d, .system⟩
        | .ok k =>
          ⟨k.setBlock d { b with internal := STATUS_PENDING, pendingOperation := true }, some d,
            .ok⟩
      else ⟨k, some d, .ok⟩

/-- `iocp_watcher_register`.  The platform data is published before the read is issued,
and stays so when the read is refused and the block freed. -/
def iocpWatcherRegister (k : IocpSys) (a : Addr) (w : PdWatcher Addr) (env : IocpEnv) :
    OpResult IocpSys Addr :=
  registerOn k a w (fdToHandle w.fd) env none some

/-- `iocp_watcher_register_handle`. -/
def iocpWatcherRegisterHandle (k : IocpSys) (a : Addr) (w : PdWatcher Addr) (env : IocpEnv) :
    OpResult IocpSys Addr :=
  if w.handle = NULL ∨ w.handle = INVALID_HANDLE_VALUE then ⟨k, w.platformData, .invalidArg⟩
  else registerOn k a w w.handle env w.platformData fun _ => w.platformData

/-- The handle on which `iocp_watcher_update` reads. -/
def readHandle (w : PdWatcher Addr) : Handle :=
  if w.isHandle && w.handle != NULL && w.handle != INVALID_HANDLE_VALUE then w.handle
  else fdToHandle w.fd

/-- `iocp_watcher_update`.  Where the events drop `PD_EVENT_READ` it cancels the read in
flight: a request, after which the read completes as it might have anyway. -/
def iocpWatcherUpdate (k : IocpSys) (_ : Addr) (w : PdWatcher Addr) (events : PdEvent)
    (env : IocpEnv) : OpResult IocpSys Addr :=
  match w.platformData with
  | none => ⟨k, none, .invalidArg⟩
  | some d =>
    match k.blocks d with
    | none => ⟨k.setFault, some d, .ok⟩
    | some b =>
      let b := { b with events }
      if events.has .read && !b.pendingOperation then
        let b := { b with internal := STATUS_SUCCESS, pendingOperation := true }
        let k := (k.touch d).setBlock d b
        match k.issueRead (readHandle w) d b env.refusedRead with
        -- the published intent is not retracted here
        | .error e => ⟨k.setError e, some d, .system⟩
        | .ok k => ⟨k, some d, .ok⟩
      else ⟨k.setBlock d b, some d, .ok⟩

/-- `iocp_watcher_unregister` on the loop thread. -/
def iocpWatcherUnregister (k : IocpSys) (_ : Addr) (w : PdWatcher Addr) : OpResult IocpSys Addr :=
  match w.platformData with
  | none => ⟨k, none, .invalidArg⟩
  | some d =>
    match k.blocks d with
    | none => ⟨k.setFault, some d, .ok⟩
    | some b =>
      if b.stopping then ⟨k, some d, .ok⟩
      else if !b.pendingOperation then ⟨k.freeBlock d, none, .ok⟩
      -- the cancellation is a request, and the loop frees the block later
      else ⟨k.setBlock d { b with stopping := true }, some d, .ok⟩

/-- `memmove(buffer, buffer + n, m)`. -/
def moveDown (buffer : List UInt8) (n m : ℕ) : List UInt8 :=
  (buffer.drop n).take m ++ buffer.drop m

/-- `iocp_watcher_drain_read`: the bytes copied to the caller. -/
def iocpWatcherDrainRead (k : IocpSys) (w : PdWatcher Addr) (len : ℕ) : IocpSys × List UInt8 :=
  match w.platformData with
  | none => (k, [])
  | some d =>
    if len = 0 then (k, [])
    else
      match k.blocks d with
      | none => (k.setFault, [])
      | some b =>
        if b.bytesAvailable = 0 then (k, [])
        else
          let toCopy := min b.bytesAvailable len
          let rest := b.bytesAvailable - toCopy
          let copied := b.buffer.take toCopy
          if rest > 0 then
            ((k.touch d).setBlock d
              { b with buffer := moveDown b.buffer toCopy rest, bytesAvailable := rest }, copied)
          else (k.setBlock d { b with bytesAvailable := rest }, copied)

/-- The watcher part of `pd_platform_iocp`. -/
def iocpOps : PlatformOps IocpSys Addr IocpEnv where
  watcherRegister := iocpWatcherRegister
  watcherRegisterHandle := iocpWatcherRegisterHandle
  watcherUpdate := iocpWatcherUpdate
  watcherUnregister := iocpWatcherUnregister

/-! ### What the operations do to the port -/

namespace IocpSys

variable {k k' : IocpSys} {d a : Addr} {h : Handle} {b : IocpWatcherData}
  {refused : Option WinError}

@[simp]
theorem setError_port (e : WinError) : (k.setError e).port = k.port := rfl

@[simp]
theorem setBlock_port : (k.setBlock d b).port = k.port := rfl

@[simp]
theorem freeBlock_port : (k.freeBlock d).port = k.port := rfl

@[simp]
theorem setPort_port (port : Port Packet) : (k.setPort port).port = port := rfl

@[simp]
theorem setFault_port : k.setFault.port = k.port := rfl

@[simp]
theorem setBlock_blocks_self : (k.setBlock d b).blocks d = some b := Function.update_self ..

theorem setBlock_blocks_ne {e : Addr} (he : e ≠ d) : (k.setBlock d b).blocks e = k.blocks e :=
  Function.update_of_ne he ..

@[simp]
theorem freeBlock_blocks_self : (k.freeBlock d).blocks d = none := Function.update_self ..

theorem freeBlock_blocks_ne {e : Addr} (he : e ≠ d) : (k.freeBlock d).blocks e = k.blocks e :=
  Function.update_of_ne he ..

@[simp]
theorem setBlock_setBlock (c : IocpWatcherData) :
    (k.setBlock d b).setBlock d c = k.setBlock d c := by
  simp [setBlock]

@[simp]
theorem touch_port : (k.touch d).port = k.port := by
  unfold touch
  split <;> rfl

@[simp]
theorem touch_assoc : (k.touch d).assoc = k.assoc := by
  unfold touch
  split <;> rfl

/-- A successful association changes the key of the handle only. -/
theorem associate_ok (hk : k.associate h a refused = .ok k') :
    k' = { k with assoc := Function.update k.assoc h (some a) } := by
  unfold associate at hk
  split_ifs at hk
  cases refused with
  | some e => exact nomatch hk
  | none => exact (Except.ok.inj hk).symm

/-- A read that is not refused is in flight under the key of its handle. -/
theorem issueRead_ok (hk : k.issueRead h d b refused = .ok k') :
    k' = ((k.touch d).setBlock d { b with internal := STATUS_PENDING }).setPort
      (k.port.issue (.io ((k.assoc h).getD NULL) (.data d) 0)) := by
  unfold issueRead at hk
  split_ifs at hk
  cases refused with
  | some e => exact nomatch hk
  | none => exact (Except.ok.inj hk).symm

end IocpSys

section Port

variable {k : IocpSys} {a : Addr} {w : PdWatcher Addr}

/-- Registering issues at most one read, under the key of the watcher. -/
theorem registerOn_port (k : IocpSys) (a : Addr) (w : PdWatcher Addr) (env : IocpEnv) {h : Handle}
    {u : Option Addr} {v : Addr → Option Addr} :
    (registerOn k a w h env u v).sys.port = k.port ∨
    ∃ d, (registerOn k a w h env u v).sys.port = k.port.issue (.io a (.data d) 0) := by
  unfold registerOn
  cases k.calloc env.dataAlloc with
  | none => exact Or.inl rfl
  | some d =>
      dsimp only
      split
      · exact Or.inl (by simp)
      · rename_i k₁ hassoc
        have hk₁ := IocpSys.associate_ok hassoc
        split_ifs
        · split
          · exact Or.inl (by simp [hk₁])
          · rename_i k₂ hread
            rw [IocpSys.issueRead_ok hread, hk₁]
            exact Or.inr ⟨d, by simp⟩
        · exact Or.inl (by simp [hk₁])

/-- Updating issues at most one read, under the key of the handle, and only if the
events ask for it. -/
theorem update_port (k : IocpSys) (a : Addr) (w : PdWatcher Addr) (events : PdEvent)
    (env : IocpEnv) :
    (iocpWatcherUpdate k a w events env).sys.port = k.port ∨
    events.has .read = true ∧ ∃ d, (iocpWatcherUpdate k a w events env).sys.port =
      k.port.issue (.io ((k.assoc (readHandle w)).getD NULL) (.data d) 0) := by
  unfold iocpWatcherUpdate
  cases w.platformData with
  | none => exact Or.inl rfl
  | some d =>
      dsimp only
      cases k.blocks d with
      | none => exact Or.inl rfl
      | some b =>
          dsimp only
          split_ifs with hread
          · split
            · exact Or.inl (by simp)
            · rename_i k₁ hissue
              rw [IocpSys.issueRead_ok hissue]
              simp only [Bool.and_eq_true] at hread
              exact Or.inr ⟨hread.1, d, by simp [IocpSys.setBlock]⟩
          · exact Or.inl rfl

/-- Unregistering issues nothing, and takes nothing back. -/
theorem unregister_port : (iocpWatcherUnregister k a w).sys.port = k.port := by
  unfold iocpWatcherUnregister
  cases w.platformData with
  | none => rfl
  | some d =>
      dsimp only
      cases k.blocks d with
      | none => rfl
      | some b =>
          dsimp only
          split_ifs <;> rfl

theorem drainRead_port {len : ℕ} : (iocpWatcherDrainRead k w len).1.port = k.port := by
  unfold iocpWatcherDrainRead
  cases w.platformData with
  | none => rfl
  | some d =>
      dsimp only
      split_ifs
      · rfl
      · cases k.blocks d with
        | none => rfl
        | some b =>
            dsimp only
            split_ifs <;> simp

end Port

end Iocp
end PollDancer
