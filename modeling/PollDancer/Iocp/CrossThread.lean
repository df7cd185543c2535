/-
# Destroying a watcher from another thread

`pd_watcher_destroy` on a thread that is not the loop thread, beside `iocp_loop_run` on
the loop thread and the kernel: `iocp_watcher_unregister`, `iocp_drain_sync` and the
dispatch of `src/platform/iocp.c`, one access to shared memory at a time.

One watcher is followed, with its block of platform data.  The packets of the port are
its reads, the writes of the user on its handle, the packet of the drain, and others.
Reading the watcher or the block after it has been freed has no successor: nothing can
be said about what follows.
-/
import PollDancer.Iocp.Loop

namespace PollDancer
namespace Iocp
namespace CrossThread

open Library

/-- A packet of the port, as far as the watcher is concerned. -/
inductive Packet
  | read (bytes : ℕ)
  /-- A write that the user has issued on the handle. -/
  | write
  /-- The packet of `iocp_drain_sync`. -/
  | drain
  | other
  deriving DecidableEq, Repr

/-- Has the packet the watcher as its key? -/
def Packet.names : Packet → Bool
  | .read _ => true
  | .write => true
  | _ => false

/-- Where the loop thread is. -/
inductive LoopPc
  /-- Outside `iocp_loop_run`. -/
  | idle
  /-- In `GetQueuedCompletionStatusEx`. -/
  | waiting
  /-- At the head of the `for` over the batch. -/
  | dispatch
  /-- In the callback of another watcher or of a timer. -/
  | other
  /-- Before `stop_wd->stopping` is read. -/
  | checkStopping (p : Packet)
  | freeData
  | clearData
  /-- Before `write_wd` is read. -/
  | demux (p : Packet)
  | writeCallback
  /-- Before `lpOverlapped->Internal` is read. -/
  | checkStatus (bytes : ℕ)
  | clearPending
  | classify (bytes : ℕ)
  | readCallback (events : PdEvent) (bytes : ℕ)
  /-- Before `watcher->platform_data` and `stopping` are read again. -/
  | rearmCheck (events : PdEvent) (bytes : ℕ)
  /-- Before the `OVERLAPPED` is zeroed and `pending_operation` set. -/
  | rearmMark
  | rearmIssue
  /-- Before `pending_operation` is reset after a refused read. -/
  | retract
  deriving DecidableEq, Repr

/-- The callers of `iocp_watcher_unregister` in `pd_watcher_destroy`. -/
inductive Caller
  | stop
  | cleanup
  deriving DecidableEq, Repr

/-- Where the destroying thread is. -/
inductive DestroyPc
  /-- `pd_watcher_destroy` is not called yet. -/
  | before
  /-- In `pd_watcher_stop`, before `active` is read. -/
  | stop
  /-- In `iocp_watcher_unregister`, before `platform_data` is read. -/
  | entered (c : Caller)
  | checkStopping (c : Caller)
  | checkPending (c : Caller)
  | freeData (c : Caller)
  | clearData (c : Caller)
  /-- Before `stopping` is set. -/
  | mark (c : Caller)
  | cancel (c : Caller)
  /-- Before `loop_thread_id` is read. -/
  | checkThread (c : Caller)
  /-- In `iocp_drain_sync`, before `CreateEvent`. -/
  | createEvent (c : Caller)
  | postSync (c : Caller)
  | waitEvent (c : Caller)
  /-- Back from `iocp_watcher_unregister`. -/
  | leave (c : Caller) (code : PdError)
  /-- Before `free(watcher)`. -/
  | free
  | returned
  deriving DecidableEq, Repr

/-- What is left of the watcher here: `active`, and whether `platform_data` points to
the block. -/
structure Watcher where
  active : Bool
  platformData : Bool
  deriving DecidableEq, Repr

/-- The shared memory, the port, and the position of both threads.  A freed object is
`none`. -/
structure State where
  watcher : Option Watcher
  data : Option IocpWatcherData
  /-- Is `loop_thread_id` set? -/
  loopThreadId : Bool
  port : Port Packet
  /-- Is the event of the drain set? -/
  signalled : Bool
  loop : LoopPc
  destroyer : DestroyPc
  deriving DecidableEq

/-- Does the loop thread hold the watcher or its platform data in its locals? -/
def LoopPc.holds : LoopPc → Bool
  | .idle => false
  | .waiting => false
  | .dispatch => false
  | .other => false
  | _ => true

/-- Is user code running on the loop thread? -/
def LoopPc.userRuns : LoopPc → Bool
  | .idle => true
  | .other => true
  | .writeCallback => true
  | .readCallback .. => true
  | _ => false

/-- One access of the loop thread while it dispatches a packet of the watcher, which has
a callback. -/
def loopStep (s : State) : Option State :=
  match s.loop with
  | .checkStopping p => do
      let w ← s.watcher
      if !w.platformData then some { s with loop := .demux p }
      else do
        let b ← s.data
        some { s with loop := if b.stopping then .freeData else .demux p }
  | .freeData => do
      let _ ← s.data
      some { s with data := none, loop := .clearData }
  | .clearData => do
      let w ← s.watcher
      some { s with watcher := some { w with platformData := false }, loop := .dispatch }
  | .demux p => do
      let w ← s.watcher
      some { s with loop :=
        if !w.platformData then .dispatch
        else match p with
          | .read n => .checkStatus n
          | _ => .writeCallback }
  | .checkStatus n => do
      let b ← s.data
      some { s with loop := if isCancelled b then .clearPending else .classify n }
  | .clearPending => do
      let w ← s.watcher
      if !w.platformData then some { s with loop := .dispatch }
      else do
        let b ← s.data
        some { s with data := some { b with pendingOperation := false }, loop := .dispatch }
  | .classify n => do
      let w ← s.watcher
      if !w.platformData then some { s with loop := .readCallback .none n }
      else do
        let b ← s.data
        let events := readEvents b n
        let bytesAvailable := if events.has .read then n else b.bytesAvailable
        some { s with
          data := some { b with bytesAvailable, pendingOperation := false }
          loop := .readCallback events n }
  | .rearmCheck events n => do
      let w ← s.watcher
      if !(w.platformData && events.has .read && 0 < n) then some { s with loop := .dispatch }
      else do
        let b ← s.data
        some { s with loop := if b.stopping then .dispatch else .rearmMark }
  | .rearmMark => do
      let b ← s.data
      some { s with
        data := some { b with internal := STATUS_SUCCESS, pendingOperation := true }
        loop := .rearmIssue }
  | .retract => do
      let b ← s.data
      some { s with data := some { b with pendingOperation := false }, loop := .dispatch }
  | _ => none

/-- The loop turns to the next packet of its batch. -/
def loopNext (s : State) : Option State :=
  if s.loop = .dispatch then
    match s.port.next with
    | none => some { s with loop := .idle }
    | some (.other, port) => some { s with port, loop := .other }
    | some (.drain, port) => some { s with port, signalled := true }
    | some (p, port) => some { s with port, loop := .checkStopping p }
  else none

/-- One access of the destroying thread.  `pd_loop_remove_watcher` takes the watcher off
the list, which nothing here reads. -/
def destroyStep (s : State) : Option State :=
  match s.destroyer with
  | .before => some { s with destroyer := .stop }
  | .stop => do
      let w ← s.watcher
      if w.active then
        some { s with watcher := some { w with active := false }, destroyer := .entered .stop }
      else some { s with destroyer := .entered .cleanup }
  | .entered c => do
      let w ← s.watcher
      some { s with
        destroyer := if w.platformData then .checkStopping c else .leave c .invalidArg }
  | .checkStopping c => do
      let b ← s.data
      some { s with destroyer := if b.stopping then .leave c .ok else .checkPending c }
  | .checkPending c => do
      let b ← s.data
      some { s with destroyer := if b.pendingOperation then .mark c else .freeData c }
  | .freeData c => do
      let w ← s.watcher
      some { s with
        data := if w.platformData then none else s.data
        destroyer := .clearData c }
  | .clearData c => do
      let w ← s.watcher
      some { s with
        watcher := some { w with platformData := false }
        destroyer := .leave c .ok }
  | .mark c => do
      let b ← s.data
      some { s with data := some { b with stopping := true }, destroyer := .cancel c }
  -- `CancelIoEx` is a request; the read completes at some later time
  | .cancel c => some { s with destroyer := .checkThread c }
  | .checkThread c =>
      some { s with destroyer := if s.loopThreadId then .createEvent c else .leave c .ok }
  | .leave .stop code => do
      let w ← s.watcher
      some { s with
        watcher := some { w with active := w.active || code != .ok }
        destroyer := .entered .cleanup }
  | .leave .cleanup _ => some { s with destroyer := .free }
  | .free => do
      let _ ← s.watcher
      some { s with watcher := none, destroyer := .returned }
  | _ => none

/-- `pd_watcher_update` for reads, on the loop thread. -/
def updateStep (s : State) (ok : Bool) : Option State := do
  let w ← s.watcher
  if !w.active || !w.platformData then some s
  else do
    let b ← s.data
    if b.pendingOperation then some s
    else if ok then
      some { s with
        data := some { b with internal := STATUS_PENDING, pendingOperation := true }
        port := s.port.issue (.read 0) }
    else
      some { s with
        data := some { b with internal := STATUS_SUCCESS, pendingOperation := true } }

/-- `pd_watcher_stop` on the loop thread. -/
def stopStep (s : State) : Option State := do
  let w ← s.watcher
  if !w.active || !w.platformData then some s
  else do
    let b ← s.data
    if b.stopping then some { s with watcher := some { w with active := false } }
    else if b.pendingOperation then
      some { s with
        watcher := some { w with active := false }
        data := some { b with stopping := true } }
    else some { s with watcher := some ⟨false, false⟩, data := none }

/-- The kernel completes an operation. -/
def completeStep (s : State) (p : Packet) (status : NtStatus) (bytes : ℕ) : Option State :=
  if p ∈ s.port.inflight then
    match p with
    | .read _ =>
        some { s with
          port := s.port.complete p (some (.read bytes))
          data := s.data.map fun b => { b with internal := status } }
    | .write => some { s with port := s.port.complete .write (some .write) }
    | _ => none
  else none

/-- The steps of the loop thread, the kernel and the destroying thread. -/
inductive Step
  /-- The loop thread calls `iocp_loop_run`. -/
  | enter
  /-- `GetQueuedCompletionStatusEx` returns `n` packets. -/
  | take (n : ℕ)
  | next
  | loop
  /-- The running callback returns. -/
  | ret
  /-- The re-issued read is in flight, or refused. -/
  | issue (ok : Bool)
  | update (ok : Bool)
  | stop
  /-- The user issues a write on the watcher's handle. -/
  | clientWrite
  /-- A packet of something else. -/
  | post
  | complete (p : Packet) (status : NtStatus) (bytes : ℕ)
  | destroy
  | createEvent (ok : Bool)
  | postSync (ok : Bool)
  | wake
  /-- The five seconds are over. -/
  | expire
  deriving DecidableEq, Repr

/-- The state after a step, `none` where the step cannot be taken. -/
def step (s : State) : Step → Option State
  | .enter =>
      if s.loop = .idle then some { s with loop := .waiting, loopThreadId := true } else none
  | .take n =>
      if s.loop = .waiting ∧ 0 < n ∧ n ≤ s.port.queue.length then
        some { s with port := s.port.take n, loop := .dispatch }
      else none
  | .next => loopNext s
  | .loop => loopStep s
  | .ret =>
      match s.loop with
      | .other => some { s with loop := .dispatch }
      | .writeCallback => some { s with loop := .dispatch }
      | .readCallback events n => some { s with loop := .rearmCheck events n }
      | _ => none
  | .issue ok =>
      if s.loop = .rearmIssue then do
        let _ ← s.watcher
        if ok then
          some { s with
            port := s.port.issue (.read 0)
            data := s.data.map fun b => { b with internal := STATUS_PENDING }
            loop := .dispatch }
        else some { s with loop := .retract }
      else none
  | .update ok => if s.loop.userRuns then updateStep s ok else none
  | .stop => if s.loop.userRuns then stopStep s else none
  | .clientWrite => some { s with port := s.port.issue .write }
  | .post => some { s with port := s.port.post .other }
  | .complete p status bytes => completeStep s p status bytes
  | .destroy => destroyStep s
  | .createEvent ok =>
      match s.destroyer with
      | .createEvent c =>
          if ok then some { s with signalled := false, destroyer := .postSync c }
          else some { s with destroyer := .leave c .ok }
      | _ => none
  | .postSync ok =>
      match s.destroyer with
      | .postSync c =>
          some { s with
            port := if ok then s.port.post .drain else s.port
            destroyer := .waitEvent c }
      | _ => none
  | .wake =>
      match s.destroyer with
      | .waitEvent c => if s.signalled then some { s with destroyer := .leave c .ok } else none
      | _ => none
  | .expire =>
      match s.destroyer with
      | .waitEvent c => some { s with destroyer := .leave c .ok }
      | _ => none

/-- A watcher that has just been registered, with a first read in flight or without. -/
def registered (events : PdEvent) (reading loopThreadId : Bool) : State where
  watcher := some ⟨true, true⟩
  data := some { newData events with
    internal := if reading then STATUS_PENDING else STATUS_SUCCESS
    pendingOperation := reading }
  loopThreadId
  port := if reading then Port.empty.issue (.read 0) else .empty
  signalled := false
  loop := .idle
  destroyer := .before

/-- The runs of the loop thread, the kernel and the destroying thread. -/
def crossRuns : Machine State Step :=
  Machine.ofFun (fun s => ∃ events reading id, s = registered events reading id) step

end CrossThread
end Iocp
end PollDancer
