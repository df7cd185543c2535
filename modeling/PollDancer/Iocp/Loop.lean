/-
# The IOCP loop

`iocp_loop_run` of `src/platform/iocp.c` with every call made on the loop thread.  The
loop takes a batch of packets and works through it; a packet is taken up (`takeUp`),
which may end in a callback; while the callback runs the user makes any calls; when it
returns, the loop looks at the watcher again and may issue the next read (`rearm`).
The kernel completes operations in any order at any time.

The loop is told about a watcher by the completion key only, and reads it without
knowing that it is still there.  Reading a watcher that is gone ends a run in
`Mode.crashed`; reading freed platform data ends it with `fault`.

An address stands for the object that is allocated there, so a watcher's address is not
handed out again once `pd_watcher_destroy` has freed it: a later use of the address is a
use of the freed watcher.
-/
import PollDancer.Iocp.Backend
import PollDancer.Lifecycle

namespace PollDancer
namespace Iocp

open Library

/-- The state of an IOCP loop. -/
abbrev IocpWorld := World IocpSys Addr

/-- The callback that is running, with the locals of `iocp_loop_run` that it uses
afterwards. -/
inductive Frame
  | timer
  | write (w : Addr)
  | read (w : Addr) (events : PdEvent) (bytes : ℕ)
  deriving DecidableEq, Repr

/-- What the loop thread is doing. -/
inductive Mode
  /-- Outside `iocp_loop_run`. -/
  | idle
  /-- At the head of the `for` over the batch. -/
  | dispatch
  | callback (frame : Frame)
  /-- It has read the watcher, which was not allocated. -/
  | crashed (w : Addr)
  deriving DecidableEq, Repr

/-- The loop thread and what it works on. -/
structure State where
  world : IocpWorld
  mode : Mode

/-- The events of a completed read. -/
def readEvents (b : IocpWatcherData) (bytes : ℕ) : PdEvent :=
  if b.pendingOperation then
    if b.internal = STATUS_SUCCESS then
      if bytes > 0 then .read else .hangup
    else .error
  else .none

/-- The events of a completed read whose flag was set. -/
theorem readEvents_cases {b : IocpWatcherData} {n : ℕ} (hp : b.pendingOperation = true) :
    (readEvents b n = .read ∧ 0 < n) ∨ readEvents b n = .hangup ∨ readEvents b n = .error := by
  unfold readEvents
  rw [if_pos hp]
  split_ifs with hst hn
  · exact Or.inl ⟨rfl, hn⟩
  · exact Or.inr (Or.inl rfl)
  · exact Or.inr (Or.inr rfl)

/-- The filter for cancelled reads. -/
def isCancelled (b : IocpWatcherData) : Bool :=
  b.internal == STATUS_CANCELLED || b.internal == ERROR_OPERATION_ABORTED

/-- The body of the `for` in `iocp_loop_run`, up to the callback. -/
def takeUp (s : IocpWorld) : Packet → IocpWorld × Mode
  | .sync => (s, .dispatch)
  | .timer fires => (s, if fires then .callback .timer else .dispatch)
  | .wake => (s, .dispatch)
  | .io w o bytes =>
    if w = NULL then (s, .dispatch)
    else match s.heap w with
    | none => (s, .crashed w)
    | some x =>
      if x.callback.isNone then (s, .dispatch)
      else match x.platformData with
      | none => (s, .dispatch)
      | some d =>
        match s.sys.blocks d with
        | none => (s.setSys s.sys.setFault, .dispatch)
        | some b =>
          if b.stopping then
            ((s.setWatcher w { x with platformData := none }).setSys (s.sys.freeBlock d), .dispatch)
          else if o ≠ .data d then (s, .callback (.write w))
          else if isCancelled b then
            (s.setSys (s.sys.setBlock d { b with pendingOperation := false }), .dispatch)
          else
            let events := readEvents b bytes
            let bytesAvailable := if events.has .read then bytes else b.bytesAvailable
            (s.setSys (s.sys.setBlock d { b with bytesAvailable, pendingOperation := false }),
              .callback (.read w events bytes))

/-- The handle on which `iocp_loop_run` re-issues a read. -/
def rearmHandle (w : PdWatcher Addr) : Handle := if w.isHandle then w.handle else fdToHandle w.fd

/-- The body of the `for` in `iocp_loop_run` after the callback. -/
def rearm (s : IocpWorld) (refused : Option WinError) : Frame → IocpWorld × Mode
  | .timer => (s, .dispatch)
  | .write _ => (s, .dispatch)
  | .read w events bytes =>
    match s.heap w with
    | none => (s, .crashed w)
    | some x =>
      match x.platformData with
      | none => (s, .dispatch)
      | some d =>
        if events.has .read && bytes > 0 then
          match s.sys.blocks d with
          | none => (s.setSys s.sys.setFault, .dispatch)
          | some b =>
            if b.stopping then (s, .dispatch)
            else
              -- `pending_operation` is not looked at before the read is issued
              let b := { b with internal := STATUS_SUCCESS, pendingOperation := true }
              let k := (s.sys.touch d).setBlock d b
              match k.issueRead (rearmHandle x) d b refused with
              | .error _ =>
                (s.setSys (k.setBlock d { b with pendingOperation := false }), .dispatch)
              | .ok k => (s.setSys k, .dispatch)
        else (s, .dispatch)

namespace IocpSys

/-- The kernel completes an operation: it writes the status and the bytes read where it
was told to, and posts the packet if the handle was associated with the port. -/
def complete (k : IocpSys) (p : Packet) (key : Addr) (o : Overlapped) (status : NtStatus)
    (data : List UInt8) : IocpSys :=
  let k := k.setPort
    (k.port.complete p (if key = NULL then none else some (.io key o data.length)))
  match o with
  | .client => k
  | .data d =>
    match k.blocks d with
    | none => k
    | some b =>
      k.setBlock d { b with internal := status, buffer := data ++ b.buffer.drop data.length }

/-- A file is opened. -/
def openHandle (k : IocpSys) (h : Handle) : IocpSys :=
  { k with isOpen := Function.update k.isOpen h true }

/-- The last reference to a file is closed; what is in flight completes later. -/
def closeHandle (k : IocpSys) (h : Handle) : IocpSys :=
  { k with
    isOpen := Function.update k.isOpen h false
    assoc := Function.update k.assoc h none }

end IocpSys

/-- Is the packet none of an operation? -/
def Packet.isSignal : Packet → Bool
  | .io .. => false
  | _ => true

theorem not_reads_of_isSignal {p : Packet} (hp : p.isSignal = true) (d : Addr) :
    p.reads d = false := by
  cases p with
  | io => exact nomatch hp
  | sync => rfl
  | timer _ => rfl
  | wake => rfl

theorem not_names_of_isSignal {p : Packet} (hp : p.isSignal = true) (a : Addr) :
    p.names a = false := by
  cases p with
  | io => exact nomatch hp
  | sync => rfl
  | timer _ => rfl
  | wake => rfl

/-- May the user make calls? -/
def Mode.userRuns : Mode → Bool
  | .idle => true
  | .callback _ => true
  | _ => false

/-- Has the run ended in a read of freed memory? -/
def State.halted (s : State) : Bool :=
  s.world.sys.fault || match s.mode with
    | .crashed _ => true
    | _ => false

/-- The steps of the loop thread, of the callbacks it runs, and of the kernel. -/
inductive Step
  | call (c : Call IocpEnv)
  /-- `pd_watcher_drain_read`. -/
  | drainRead (w : Addr) (len : ℕ)
  | openHandle (h : Handle)
  | closeHandle (h : Handle)
  /-- The user issues an operation with an `OVERLAPPED` of its own. -/
  | clientWrite (h : Handle)
  | complete (p : Packet) (status : NtStatus) (data : List UInt8)
  /-- A packet of a timer, of `iocp_loop_stop` or of a drain. -/
  | post (p : Packet)
  /-- `GetQueuedCompletionStatusEx` returns `n` packets. -/
  | wait (n : ℕ)
  | waitFailed (e : WinError)
  | next
  /-- The running callback returns. -/
  | ret (refused : Option WinError)
  deriving DecidableEq

/-- The address at which the call wants to allocate a watcher is not one of a freed
watcher. -/
def freshFor (s : IocpWorld) (c : Call IocpEnv) : Bool :=
  c.callocs.all fun a => !s.destroyed.contains a

/-- The backend's state is replaced. -/
def State.setSys (s : State) (k : IocpSys) : State := { s with world := s.world.setSys k }

/-- The state after a step, `none` where the step cannot be taken. -/
def act (s : State) : Step → Option State
  | .call c =>
      if s.mode.userRuns && freshFor s.world c then
        some { s with world := (s.world.exec iocpOps c).1 }
      else none
  | .drainRead w len =>
      match s.world.heap w with
      | none => none
      | some x =>
        if s.mode.userRuns then some (s.setSys (iocpWatcherDrainRead s.world.sys x len).1)
        else none
  | .openHandle h =>
      if !s.world.sys.isOpen h then some (s.setSys (s.world.sys.openHandle h)) else none
  | .closeHandle h =>
      if s.world.sys.isOpen h then some (s.setSys (s.world.sys.closeHandle h)) else none
  | .clientWrite h =>
      if s.world.sys.isOpen h then
        some (s.setSys (s.world.sys.setPort
          (s.world.sys.port.issue (.io ((s.world.sys.assoc h).getD NULL) .client 0))))
      else none
  | .complete p status data =>
      match p with
      | .io key o _ =>
        if p ∈ s.world.sys.port.inflight ∧ data.length ≤ bufferSize then
          some (s.setSys (s.world.sys.complete p key o status data))
        else none
      | _ => none
  | .post p =>
      if p.isSignal then some (s.setSys (s.world.sys.setPort (s.world.sys.port.post p))) else none
  | .wait n =>
      if s.mode = .idle ∧ 0 < n ∧ n ≤ s.world.sys.port.queue.length then
        some ⟨s.world.setSys (s.world.sys.setPort (s.world.sys.port.take n)), .dispatch⟩
      else none
  | .waitFailed e => if s.mode = .idle then some (s.setSys (s.world.sys.setError e)) else none
  | .next =>
      if s.mode = .dispatch then
        match s.world.sys.port.next with
        | none => some { s with mode := .idle }
        | some (p, port) =>
          let r := takeUp (s.world.setSys (s.world.sys.setPort port)) p
          some ⟨r.1, r.2⟩
      else none
  | .ret refused =>
      match s.mode with
      | .callback frame =>
        let r := rearm s.world refused frame
        some ⟨r.1, r.2⟩
      | _ => none

/-- A run ends where freed memory has been read: nothing can be said about what
follows. -/
def step (s : State) (l : Step) : Option State := if s.halted then none else act s l

/-- A fresh loop: no watcher, nothing associated, nothing in flight. -/
def Init (s : State) : Prop :=
  s.mode = .idle ∧ s.world.loop = .create ∧ (∀ a, s.world.heap a = none) ∧
  s.world.destroyed = [] ∧ (∀ d, s.world.sys.blocks d = none) ∧
  (∀ h, s.world.sys.assoc h = none) ∧ s.world.sys.port = .empty ∧
  s.world.sys.fault = false ∧ s.world.sys.overlaps = []

/-- `pd_loop_create` with `iocp_loop_create`, in a process without open handles. -/
def iocpLoopCreate : State where
  world :=
    { heap := fun _ => none
      loop := .create
      sys :=
        { blocks := fun _ => none
          isOpen := fun _ => false
          assoc := fun _ => none
          port := .empty
          systemError := none
          fault := false
          overlaps := [] }
      destroyed := [] }
  mode := .idle

theorem init_iocpLoopCreate : Init iocpLoopCreate :=
  ⟨rfl, rfl, fun _ => rfl, rfl, fun _ => rfl, fun _ => rfl, rfl, rfl, rfl⟩

/-- The runs of an IOCP loop. -/
def iocpRuns : Machine State Step := Machine.ofFun Init step

/-- What each step needs, and what it does. -/
inductive Stepped (s : State) : Step → State → Prop
  | call {c : Call IocpEnv} : s.mode.userRuns = true → freshFor s.world c = true →
      Stepped s (.call c) { s with world := (s.world.exec iocpOps c).1 }
  | drainRead {w : Addr} {len : ℕ} {x : PdWatcher Addr} : s.world.heap w = some x →
      Stepped s (.drainRead w len) (s.setSys (iocpWatcherDrainRead s.world.sys x len).1)
  | openHandle {h : Handle} : Stepped s (.openHandle h) (s.setSys (s.world.sys.openHandle h))
  | closeHandle {h : Handle} : Stepped s (.closeHandle h) (s.setSys (s.world.sys.closeHandle h))
  | clientWrite {h : Handle} : Stepped s (.clientWrite h) (s.setSys (s.world.sys.setPort
      (s.world.sys.port.issue (.io ((s.world.sys.assoc h).getD NULL) .client 0))))
  | complete {key : Addr} {o : Overlapped} {n : ℕ} {status : NtStatus} {data : List UInt8} :
      .io key o n ∈ s.world.sys.port.inflight →
      Stepped s (.complete (.io key o n) status data)
        (s.setSys (s.world.sys.complete (.io key o n) key o status data))
  | post {p : Packet} : p.isSignal = true →
      Stepped s (.post p) (s.setSys (s.world.sys.setPort (s.world.sys.port.post p)))
  | wait {n : ℕ} : Stepped s (.wait n)
      ⟨s.world.setSys (s.world.sys.setPort (s.world.sys.port.take n)), .dispatch⟩
  | waitFailed {e : WinError} : Stepped s (.waitFailed e) (s.setSys (s.world.sys.setError e))
  | done : s.world.sys.port.next = none → Stepped s .next { s with mode := .idle }
  | next {p : Packet} {port : Port Packet} : s.world.sys.port.next = some (p, port) →
      Stepped s .next ⟨(takeUp (s.world.setSys (s.world.sys.setPort port)) p).1,
        (takeUp (s.world.setSys (s.world.sys.setPort port)) p).2⟩
  | ret {f : Frame} {refused : Option WinError} : s.mode = .callback f →
      Stepped s (.ret refused) ⟨(rearm s.world refused f).1, (rearm s.world refused f).2⟩

theorem act_of_step {s s' : State} {l : Step} (h : step s l = some s') : act s l = some s' := by
  rw [step] at h
  split at h
  · exact nomatch h
  · exact h

/-- The loop waits, and turns to a packet, with no callback running. -/
theorem mode_of_wait {s s' : State} {n : ℕ} (h : step s (.wait n) = some s') : s.mode = .idle :=
  (Option.ite_none_right_eq_some.1 (act_of_step h)).1.1

theorem mode_of_next {s s' : State} (h : step s .next = some s') : s.mode = .dispatch :=
  (Option.ite_none_right_eq_some.1 (act_of_step h)).1

/-- A read brings in no more than the buffer holds. -/
theorem length_le_of_complete {s s' : State} {p : Packet} {status : NtStatus} {data : List UInt8}
    (hstep : step s (.complete p status data) = some s') : data.length ≤ bufferSize := by
  have hact := act_of_step hstep
  cases p with
  | io key o n => exact (Option.ite_none_right_eq_some.1 hact).1.2
  | sync => exact nomatch hact
  | timer => exact nomatch hact
  | wake => exact nomatch hact

theorem stepped_of_step {s s' : State} {l : Step} (h : step s l = some s') : Stepped s l s' := by
  have hact := act_of_step h
  cases l with
  | call c =>
      simp only [act, Option.ite_none_right_eq_some, Bool.and_eq_true, Option.some.injEq] at hact
      obtain ⟨⟨huser, hfresh⟩, rfl⟩ := hact
      exact .call huser hfresh
  | drainRead w len =>
      simp only [act] at hact
      cases hx : s.world.heap w with
      | none =>
          rw [hx] at hact
          exact nomatch hact
      | some x =>
          simp only [hx, Option.ite_none_right_eq_some, Option.some.injEq] at hact
          obtain ⟨-, rfl⟩ := hact
          exact .drainRead hx
  | openHandle hd =>
      simp only [act, Option.ite_none_right_eq_some, Option.some.injEq] at hact
      obtain ⟨-, rfl⟩ := hact
      exact .openHandle
  | closeHandle hd =>
      simp only [act, Option.ite_none_right_eq_some, Option.some.injEq] at hact
      obtain ⟨-, rfl⟩ := hact
      exact .closeHandle
  | clientWrite hd =>
      simp only [act, Option.ite_none_right_eq_some, Option.some.injEq] at hact
      obtain ⟨-, rfl⟩ := hact
      exact .clientWrite
  | complete p status data =>
      cases p with
      | io key o n =>
          simp only [act, Option.ite_none_right_eq_some, Option.some.injEq] at hact
          obtain ⟨⟨hp, -⟩, rfl⟩ := hact
          exact .complete hp
      | sync => exact nomatch hact
      | timer fires => exact nomatch hact
      | wake => exact nomatch hact
  | post p =>
      simp only [act, Option.ite_none_right_eq_some, Option.some.injEq] at hact
      obtain ⟨hp, rfl⟩ := hact
      exact .post hp
  | wait n =>
      simp only [act, Option.ite_none_right_eq_some, Option.some.injEq] at hact
      obtain ⟨-, rfl⟩ := hact
      exact .wait
  | waitFailed e =>
      simp only [act, Option.ite_none_right_eq_some, Option.some.injEq] at hact
      obtain ⟨-, rfl⟩ := hact
      exact .waitFailed
  | next =>
      simp only [act, Option.ite_none_right_eq_some] at hact
      obtain ⟨-, hact⟩ := hact
      cases hp : s.world.sys.port.next with
      | none =>
          rw [hp] at hact
          obtain rfl := Option.some.inj hact
          exact .done hp
      | some r =>
          rw [hp] at hact
          obtain rfl := Option.some.inj hact
          exact .next hp
  | ret refused =>
      simp only [act] at hact
      cases hmode : s.mode with
      | callback f =>
          rw [hmode] at hact
          obtain rfl := Option.some.inj hact
          exact .ret hmode
      | idle =>
          rw [hmode] at hact
          exact nomatch hact
      | dispatch =>
          rw [hmode] at hact
          exact nomatch hact
      | crashed w =>
          rw [hmode] at hact
          exact nomatch hact

/-- A watcher for reads on socket 4. -/
def createReader : Step :=
  .call (.create 4 .read (some (.user 1)) 0 ⟨some 100, true, some 200, none, none, 0⟩)

/-- A byte arrives on socket 4 for that watcher, and its callback begins. -/
def readArrives : List Step :=
  [.openHandle 4, createReader, .complete (.io 100 (.data 200) 0) STATUS_SUCCESS [7], .wait 1,
    .next]

end Iocp
end PollDancer
