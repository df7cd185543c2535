/-
# What an update cancels

An update that drops `PD_EVENT_READ` while a read is pending cancels it.  For a handle this is
`CancelIoEx` with the watcher's `OVERLAPPED`.  For a socket it is `CancelIo`, which goes for
everything that the calling thread has in flight on the file.

The loop does not know which operation is on which file, nor who has issued it.  Here a run
keeps these beside its state (`IoState`): the operations are those in flight
(`operations_perm`).
-/
import PollDancer.Iocp.Ownership

namespace PollDancer
namespace Iocp

open Library

/-- An operation in flight: the handle of its file while that is open, and whether the loop's
thread has issued it. -/
structure Operation where
  handle : Option Handle
  onLoop : Bool
  packet : Packet
  deriving DecidableEq, Repr

/-- What the kernel is asked to cancel. -/
inductive CancelRequest
  /-- `CancelIo`. -/
  | ofThread (h : Handle)
  /-- `CancelIoEx`. -/
  | ofOverlapped (h : Handle) (d : Addr)
  deriving DecidableEq, Repr

/-- Does the request of the loop's thread go for the operation? -/
def CancelRequest.cancels : CancelRequest → Operation → Bool
  | .ofThread h, op => op.handle == some h && op.onLoop
  | .ofOverlapped h d, op => op.handle == some h && op.packet.reads d

/-- `cancel_handle` in `iocp_watcher_update`. -/
def cancelHandle (w : PdWatcher Addr) : Option Handle :=
  let h :=
    if w.isHandle && w.handle != NULL && w.handle != INVALID_HANDLE_VALUE then w.handle
    else if 0 ≤ w.fd then fdToHandle w.fd
    else NULL
  if h ≠ NULL ∧ h ≠ INVALID_HANDLE_VALUE then some h else none

/-- What `iocp_watcher_update` asks the kernel to cancel. -/
def updateCancel (w : PdWatcher Addr) (d : Addr) (b : IocpWatcherData) (events : PdEvent) :
    Option CancelRequest :=
  if b.pendingOperation && !events.has .read then
    (cancelHandle w).map fun h => if w.isHandle then .ofOverlapped h d else .ofThread h
  else none

/-- What an update of an active watcher cancels. -/
def cancelledBy (s : IocpWorld) (ops : List Operation) (a : Addr) (events : PdEvent) :
    List Operation :=
  match s.heap a with
  | none => []
  | some x =>
    match blockOf s a with
    | none => []
    | some (d, b) =>
      match updateCancel x d b events with
      | none => []
      | some r => ops.filter r.cancels

/-- The loop, and the operations in flight. -/
structure IoState where
  loop : State
  ops : List Operation

/-- The steps of the loop, with what tells one operation from another. -/
inductive Action
  | loop (l : Step)
  | clientWrite (h : Handle) (onLoop : Bool)
  | complete (op : Operation) (status : NtStatus) (data : List UInt8)
  deriving DecidableEq

/-- The step that the loop takes. -/
def Action.step : Action → Step
  | .loop l => l
  | .clientWrite h _ => .clientWrite h
  | .complete op status data => .complete op.packet status data

/-- It is said which operation is issued or completed, and the latter is in flight. -/
def Action.possible (ops : List Operation) : Action → Bool
  | .loop (.clientWrite _) => false
  | .loop (.complete ..) => false
  | .complete op _ _ => ops.contains op
  | _ => true

/-- The handle on which the backend issues a read in the step. -/
def readOn (s : State) : Step → Option Handle
  | .call (.create fd _ _ _ _) => some (fdToHandle fd)
  | .call (.createForHandle h _ _ _ _) => some h
  | .call (.start a _) => (s.world.heap a).map fun x => fdToHandle x.fd
  | .call (.update a _ _) => (s.world.heap a).map readHandle
  | .ret _ =>
      match s.mode with
      | .callback (.read a _ _) => (s.world.heap a).map rearmHandle
      | _ => none
  | _ => none

/-- What the loop's thread has issued from `s` to `t`. -/
def issuedFrom (s t : State) : List Packet :=
  t.world.sys.port.inflight.drop s.world.sys.port.inflight.length

/-- The operations in flight after a step from `s` to `t`. -/
def operations (s t : State) (ops : List Operation) : Action → List Operation
  | .clientWrite h onLoop => ops ++ (issuedFrom s t).map fun p => ⟨some h, onLoop, p⟩
  | .complete op _ _ => ops.erase op
  -- the file outlives its handle until the operations on it are completed
  | .loop (.closeHandle h) =>
      ops.map fun op => if op.handle = some h then { op with handle := none } else op
  | .loop l => ops ++ (issuedFrom s t).map fun p => ⟨readOn s l, true, p⟩

/-- The loop takes a step. -/
def ioStep (s : IoState) (e : Action) : Option IoState :=
  if e.possible s.ops then
    (step s.loop e.step).map fun t => ⟨t, operations s.loop t s.ops e⟩
  else none

/-- A fresh loop. -/
def IoState.Init (s : IoState) : Prop := Iocp.Init s.loop ∧ s.ops = []

/-- The runs of a loop in which operations are told apart. -/
def ioRuns : Machine IoState Action := Machine.ofFun IoState.Init ioStep


section

variable {s s' : State} {r r' : IoState} {l : Step} {e : Action}

/-- Only a completion takes an operation out of those in flight. -/
theorem inflight_step (hstep : step s l = some s')
    (hl : ∀ p status data, l ≠ .complete p status data) :
    ∃ ps, s'.world.sys.port.inflight = s.world.sys.port.inflight ++ ps := by
  have hport : ∀ {w w' : IocpWorld}, w'.sys.port = w.sys.port →
      ∃ ps, w'.sys.port.inflight = w.sys.port.inflight ++ ps := by
    intro w w' h
    exact ⟨[], by rw [h, List.append_nil]⟩
  cases stepped_of_step hstep with
  | @call c =>
      obtain ⟨a, -, hat⟩ := callAt_exec s.world c
      rcases hat.port_cases with h | ⟨key, d, -, h⟩
      · exact hport h
      · exact ⟨_, congrArg Port.inflight h⟩
  | drainRead => exact hport (w := s.world) drainRead_port
  | openHandle => exact hport (w := s.world) rfl
  | closeHandle => exact hport (w := s.world) rfl
  | clientWrite => exact ⟨_, rfl⟩
  | complete => exact absurd rfl (hl _ _ _)
  | post => exact ⟨[], (List.append_nil _).symm⟩
  | wait => exact ⟨[], (List.append_nil _).symm⟩
  | waitFailed => exact hport (w := s.world) rfl
  | done => exact hport rfl
  | @next p port hp =>
      refine ⟨[], ?_⟩
      rw [List.append_nil, ← Port.inflight_of_next hp]
      exact congrArg Port.inflight (takesUp_takeUp _ p).port_eq
  | @ret f refused hmode =>
      rcases (rearms_rearm s.world refused f).port_cases with h | ⟨_, _, _, _, _, _, _, _, h⟩
      · exact hport h
      · exact ⟨_, congrArg Port.inflight h⟩

/-- What a step has issued has come in behind the operations that were in flight. -/
theorem inflight_eq (hstep : step s l = some s')
    (hl : ∀ p status data, l ≠ .complete p status data) :
    s'.world.sys.port.inflight = s.world.sys.port.inflight ++ issuedFrom s s' := by
  obtain ⟨ps, hps⟩ := inflight_step hstep hl
  rw [issuedFrom, hps, List.drop_left]

theorem inflight_complete {p : Packet} {status : NtStatus} {data : List UInt8}
    (hstep : step s (.complete p status data) = some s') :
    s'.world.sys.port.inflight = s.world.sys.port.inflight.erase p := by
  cases stepped_of_step hstep with
  | @complete key o n =>
      show (IocpSys.complete ..).port.inflight = _
      rw [complete_port]
      rfl

/-- A step of the loop's thread adds what it has issued. -/
theorem operations_loop {ops : List Operation} (hl : ∀ h, l ≠ .closeHandle h) :
    operations s s' ops (.loop l) =
      ops ++ (issuedFrom s s').map fun p => ⟨readOn s l, true, p⟩ := by
  cases l with
  | closeHandle h => exact absurd rfl (hl h)
  | _ => rfl

/-- The loop takes the step, and the action is possible. -/
theorem loop_of_ioStep (hstep : ioStep r e = some r') : e.possible r.ops = true ∧
    step r.loop e.step = some r'.loop ∧ r'.ops = operations r.loop r'.loop r.ops e := by
  obtain ⟨hpossible, hstep⟩ := Option.ite_none_right_eq_some.1 hstep
  obtain ⟨t, ht, rfl⟩ := Option.map_eq_some_iff.1 hstep
  exact ⟨hpossible, ht, rfl⟩

/-- An operation that comes in with its packet. -/
theorem perm_append {ops : List Operation} {inflight ps : List Packet} {f : Packet → Operation}
    (h : (ops.map Operation.packet).Perm inflight) (hf : ∀ p, (f p).packet = p) :
    ((ops ++ ps.map f).map Operation.packet).Perm (inflight ++ ps) := by
  have hmap : (ps.map f).map Operation.packet = ps := by
    rw [List.map_map]
    exact (List.map_congr_left fun p _ => hf p).trans (List.map_id' ps)
  rw [List.map_append, hmap]
  exact h.append_right ps

/-- What one step preserves. -/
theorem operations_step (h : (r.ops.map Operation.packet).Perm r.loop.world.sys.port.inflight)
    (hstep : ioStep r e = some r') :
    (r'.ops.map Operation.packet).Perm r'.loop.world.sys.port.inflight := by
  obtain ⟨hpossible, hloop, hops⟩ := loop_of_ioStep hstep
  rw [hops]
  cases e with
  | loop l =>
      have hl : ∀ p status data, l ≠ .complete p status data := by
        rintro p status data rfl
        exact nomatch hpossible
      have heq := inflight_eq hloop hl
      by_cases hclose : ∃ c, l = .closeHandle c
      · -- the operations on the file stay in flight
        obtain ⟨c, rfl⟩ := hclose
        have hmap : (r.ops.map fun op =>
            if op.handle = some c then { op with handle := none } else op).map Operation.packet =
              r.ops.map Operation.packet := by
          rw [List.map_map]
          refine List.map_congr_left fun op _ => ?_
          dsimp only [Function.comp]
          split_ifs <;> rfl
        have hact := act_of_step hloop
        obtain ⟨-, hclosed⟩ := Option.ite_none_right_eq_some.1 hact
        rw [← Option.some.inj hclosed, operations, hmap]
        exact h
      · rw [operations_loop fun c hc => hclose ⟨c, hc⟩, heq]
        exact perm_append h fun _ => rfl
  | clientWrite c onLoop =>
      rw [inflight_eq hloop (by rintro _ _ _ ⟨⟩), operations]
      exact perm_append h fun _ => rfl
  | complete op status data =>
      have hmem : op ∈ r.ops := List.contains_iff_mem.1 hpossible
      have hperm : (op.packet :: (r.ops.erase op).map Operation.packet).Perm
          (op.packet :: r.loop.world.sys.port.inflight.erase op.packet) :=
        calc op.packet :: (r.ops.erase op).map Operation.packet
          _ = (op :: r.ops.erase op).map Operation.packet := rfl
          List.Perm _ (r.ops.map Operation.packet) := (List.perm_cons_erase hmem).symm.map _
          List.Perm _ r.loop.world.sys.port.inflight := h
          List.Perm _ _ := List.perm_cons_erase (h.mem_iff.1 (List.mem_map_of_mem hmem))
      rw [inflight_complete hloop]
      exact hperm.cons_inv

/-- The operations are those in flight. -/
theorem operations_perm {ok : IoState → Action → Prop} (h : ioRuns.Reach ok r) :
    (r.ops.map Operation.packet).Perm r.loop.world.sys.port.inflight := by
  refine h.invariant (I := fun r =>
    (r.ops.map Operation.packet).Perm r.loop.world.sys.port.inflight) ?_ ?_
  · rintro s ⟨⟨-, -, -, -, -, -, hport, -⟩, hops⟩
    rw [hops, hport]
    exact .refl _
  · exact fun s a t hs _ hnext => operations_step hs hnext

theorem cancelledBy_of_none {ops : List Operation} {w : IocpWorld} {a : Addr} {events : PdEvent}
    (hblock : blockOf w a = none) : cancelledBy w ops a events = [] := by
  unfold cancelledBy
  rw [hblock]
  split <;> rfl

theorem mem_cancelledBy {ops : List Operation} {w : IocpWorld} {a d : Addr} {events : PdEvent}
    {x : PdWatcher Addr} {b : IocpWatcherData} {op : Operation} (hx : w.heap a = some x)
    (hblock : blockOf w a = some (d, b)) : op ∈ cancelledBy w ops a events ↔
      ∃ q, updateCancel x d b events = some q ∧ op ∈ ops ∧ q.cancels op = true := by
  simp only [cancelledBy, hx, hblock]
  cases updateCancel x d b events with
  | none => simp
  | some q => simp

/-- Only a pending read is cancelled: on a handle by its `OVERLAPPED`, on a socket with what
else the thread has in flight. -/
theorem updateCancel_eq_some {x : PdWatcher Addr} {d : Addr} {b : IocpWatcherData}
    {events : PdEvent} {q : CancelRequest} (h : updateCancel x d b events = some q) :
    b.pendingOperation = true ∧ events.has .read = false ∧ ∃ c, cancelHandle x = some c ∧
      (x.isHandle = true ∧ q = .ofOverlapped c d ∨ x.isHandle = false ∧ q = .ofThread c) := by
  obtain ⟨hread, h⟩ := Option.ite_none_right_eq_some.1 h
  obtain ⟨c, hc, rfl⟩ := Option.map_eq_some_iff.1 h
  rw [Bool.and_eq_true, Bool.not_eq_true'] at hread
  refine ⟨hread.1, hread.2, c, hc, ?_⟩
  cases x.isHandle with
  | true => exact .inl ⟨rfl, rfl⟩
  | false => exact .inr ⟨rfl, rfl⟩

/-- An update cancels no more operations than reads on the block are in flight, if it cancels
nothing else. -/
theorem cancelledBy_length_le {ops : List Operation} {w : IocpWorld} {a d : Addr}
    {events : PdEvent} (h : (ops.map Operation.packet).Perm w.sys.port.inflight)
    (hreads : ∀ op ∈ cancelledBy w ops a events, op.packet.reads d = true) :
    (cancelledBy w ops a events).length ≤ w.sys.port.inflight.countP (Packet.reads d) := by
  have hsub : (cancelledBy w ops a events).Sublist ops := by
    unfold cancelledBy
    split
    · exact List.nil_sublist _
    · split
      · exact List.nil_sublist _
      · split
        · exact List.nil_sublist _
        · exact List.filter_sublist
  calc (cancelledBy w ops a events).length
    _ = (cancelledBy w ops a events).countP fun op => op.packet.reads d :=
        (List.countP_eq_length.2 hreads).symm
    _ ≤ ops.countP fun op => op.packet.reads d := hsub.countP_le
    _ = (ops.map Operation.packet).countP (Packet.reads d) := by rw [List.countP_map]; rfl
    _ = w.sys.port.inflight.countP (Packet.reads d) := h.countP_eq _

end

end Iocp
end PollDancer
