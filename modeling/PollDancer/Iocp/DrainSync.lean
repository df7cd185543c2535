/-
# The packets of `iocp_drain_sync`

`iocp_drain_sync` of `src/platform/iocp.c`, called by any number of threads and by the
callbacks of the loop thread, beside the sync branch of `iocp_loop_run`, one access to
shared memory at a time.

A call keeps its `pd_iocp_sync_t` on its stack, posts a packet that points to it, and
waits for five seconds at most.  It does not take the packet back when it gives up: the
loop comes to the packet when the frame has returned and the event is closed,
`not_sync_live`.  A call on the loop thread can end in no other way, because nobody takes
its packet up while it waits.

If every call waits until its packet has been dealt with, the packets that the loop holds
point to calls that are waiting: `sync_live`.
-/
import PollDancer.Library.Machine
import PollDancer.Library.Port

namespace PollDancer
namespace Iocp
namespace DrainSync

open Library

/-- The callers of `iocp_drain_sync`. -/
inductive Caller
  | timerDestroy
  | watcherUnregister
  deriving DecidableEq, Repr

/-- A packet of the port. -/
inductive Packet
  /-- The packet with `PD_IOCP_SYNC_KEY` that points to the `pd_iocp_sync_t` of the
  `n`-th call. -/
  | sync (n : ℕ)
  | other
  deriving DecidableEq, Repr

/-- Where a call is. -/
inductive DrainPc
  | createEvent
  | postSync
  | waitEvent
  | closeEvent
  | leave
  deriving DecidableEq, Repr

/-- A call that has not returned.  `event` tells whether `sync.event` is signalled, and is
`none` when it is no open handle. -/
structure Drain where
  pc : DrainPc
  event : Option Bool
  consumed : Bool
  deriving DecidableEq, Repr

/-- Where the loop thread is. -/
inductive LoopPc
  /-- Outside `iocp_loop_run`. -/
  | idle
  /-- In `GetQueuedCompletionStatusEx`. -/
  | waiting
  /-- At the head of the `for` over the batch. -/
  | dispatch
  | callback
  /-- Before `sync->event` is read. -/
  | setEvent (n : ℕ)
  /-- In the `n`-th call itself, from a callback or from outside of `iocp_loop_run`. -/
  | draining (n : ℕ) (inCallback : Bool)
  deriving DecidableEq, Repr

/-- The port, the calls that have not returned, how many there have been, and the loop
thread. -/
structure State where
  port : Port Packet
  drains : ℕ → Option Drain
  calls : ℕ
  /-- Is `loop_thread_id` set? -/
  loopThreadId : Bool
  loop : LoopPc

/-- The loop thread when the `n`-th call has returned. -/
def LoopPc.resume (n : ℕ) : LoopPc → LoopPc
  | .draining m inCallback =>
      if m = n then if inCallback then .callback else .idle else .draining m inCallback
  | pc => pc

/-- The call goes on. -/
def State.setDrain (s : State) (n : ℕ) (d : Option Drain) : State :=
  { s with drains := Function.update s.drains n d }

/-- A call begins.  The loop thread makes calls from its callbacks and from outside of
`iocp_loop_run`; `iocp_watcher_unregister` makes none on the loop thread, and none before
there is one. -/
def callStep (s : State) (c : Caller) (onLoop : Bool) : Option State :=
  let s' : State :=
    { s with
      drains := Function.update s.drains s.calls (some ⟨.createEvent, none, false⟩)
      calls := s.calls + 1 }
  if c = .watcherUnregister ∧ (onLoop ∨ !s.loopThreadId) then none
  else if onLoop then
    match s.loop with
    | .idle => some { s' with loop := .draining s.calls false }
    | .callback => some { s' with loop := .draining s.calls true }
    | _ => none
  else some s'

/-- One access of a call.  `ok` is the answer of the environment to `CreateEvent` and to
`PostQueuedCompletionStatus`, whose failure the code does not notice. -/
def drainStep (s : State) (n : ℕ) (ok : Bool) : Option State := do
  let d ← s.drains n
  match d.pc with
  | .createEvent =>
      if ok then some (s.setDrain n (some { d with pc := .postSync, event := some false }))
      else some (s.setDrain n (some { d with pc := .leave }))
  | .postSync =>
      some { s.setDrain n (some { d with pc := .waitEvent }) with
        port := if ok then s.port.post (.sync n) else s.port }
  | .waitEvent =>
      -- the event is reset when the wait ends
      if d.event = some true then
        some (s.setDrain n (some { pc := .closeEvent, event := some false, consumed := true }))
      else none
  | .closeEvent => some (s.setDrain n (some { d with pc := .leave, event := none }))
  | .leave => some { s.setDrain n none with loop := s.loop.resume n }

/-- The five seconds are over. -/
def expireStep (s : State) (n : ℕ) : Option State := do
  let d ← s.drains n
  if d.pc = .waitEvent then some (s.setDrain n (some { d with pc := .closeEvent })) else none

/-- The loop turns to the next packet of its batch. -/
def loopNext (s : State) : Option State :=
  if s.loop = .dispatch then
    match s.port.next with
    | none => some { s with loop := .idle }
    | some (.sync n, port) => some { s with port, loop := .setEvent n }
    | some (.other, port) => some { s with port, loop := .callback }
  else none

/-- The loop signals the event that `sync` points to.  Reading the `pd_iocp_sync_t` of a
call that has returned has no successor; a closed handle is refused. -/
def setEventStep (s : State) : Option State :=
  match s.loop with
  | .setEvent n => do
      let d ← s.drains n
      some { s.setDrain n (some { d with event := d.event.map fun _ => true }) with
        loop := .dispatch }
  | _ => none

/-- The steps of the calls and of the loop thread. -/
inductive Step
  | call (c : Caller) (onLoop : Bool)
  | drain (n : ℕ) (ok : Bool)
  | expire (n : ℕ)
  /-- The loop thread calls `iocp_loop_run`. -/
  | enter
  /-- `GetQueuedCompletionStatusEx` returns `k` packets. -/
  | take (k : ℕ)
  | next
  | setEvent
  /-- The running callback returns. -/
  | ret
  /-- A packet of something else. -/
  | post
  deriving DecidableEq, Repr

/-- The state after a step, `none` where the step cannot be taken. -/
def step (s : State) : Step → Option State
  | .call c onLoop => callStep s c onLoop
  | .drain n ok => drainStep s n ok
  | .expire n => expireStep s n
  | .enter =>
      if s.loop = .idle then some { s with loop := .waiting, loopThreadId := true } else none
  | .take k =>
      if s.loop = .waiting ∧ 0 < k ∧ k ≤ s.port.queue.length then
        some { s with port := s.port.take k, loop := .dispatch }
      else none
  | .next => loopNext s
  | .setEvent => setEventStep s
  | .ret => if s.loop = .callback then some { s with loop := .dispatch } else none
  | .post => some { s with port := s.port.post .other }

/-- A loop on which `iocp_drain_sync` has not been called. -/
def idle : State where
  port := .empty
  drains := fun _ => none
  calls := 0
  loopThreadId := false
  loop := .idle

/-- The runs of the calls and the loop thread. -/
def drainRuns : Machine State Step := Machine.ofFun (· = idle) step

/-- Has the loop dequeued the packet of the `n`-th call, and not yet dealt with it? -/
def Held (s : State) (n : ℕ) : Prop := .sync n ∈ s.port.batch ∨ s.loop = .setEvent n

/-- Has the `n`-th call not returned, and is its event open? -/
def Live (s : State) (n : ℕ) : Prop := ∃ d, s.drains n = some d ∧ d.event.isSome = true

/-- A wait does not give up before its packet has been dealt with. -/
def Step.patient (s : State) : Step → Bool
  | .expire n => !s.port.items.contains (.sync n) && s.loop != .setEvent n
  | _ => true

/-- The step is patient. -/
def Step.Patient (s : State) (l : Step) : Prop := l.patient s = true

instance (s : State) (l : Step) : Decidable (l.Patient s) :=
  inferInstanceAs (Decidable (l.patient s = true))

/-! ### The invariant -/

/-- Is it the packet of the `n`-th call? -/
def Packet.isSync (n : ℕ) : Packet → Bool
  | .sync m => m == n
  | .other => false

/-- The packets of the `n`-th call that have not been dealt with. -/
def outstanding (s : State) (n : ℕ) : ℕ :=
  s.port.count (Packet.isSync n) + if s.loop = .setEvent n then 1 else 0

/-- The packets that may still point to the call: one while it waits, and none after its
event has been set. -/
def Drain.awaits (d : Drain) : ℕ := if d.pc = .waitEvent ∧ d.event = some false then 1 else 0

/-- Every packet points to a call that waits for it. -/
structure Inv (s : State) : Prop where
  bound : ∀ n, outstanding s n ≤ (s.drains n).elim 0 Drain.awaits
  opened : ∀ n d, s.drains n = some d → d.pc = .postSync → d.event = some false
  fresh : ∀ n, s.calls ≤ n → s.drains n = none

section

variable {s s' : State} {n : ℕ} {d : Drain}

/-- A step on no call. -/
theorem Inv.keep (h : Inv s) (hd : s'.drains = s.drains) (hc : s'.calls = s.calls)
    (hout : ∀ m, outstanding s' m ≤ outstanding s m) : Inv s' where
  bound m := by
    rw [hd]
    exact Nat.le_trans (hout m) (h.bound m)
  opened := hd ▸ h.opened
  fresh m hm := by
    rw [hd]
    exact h.fresh m (hc ▸ hm)

/-- A step on the `n`-th call. -/
theorem Inv.update (h : Inv s) {d' : Option Drain} (hn : s.drains n = some d)
    (hd : s'.drains = Function.update s.drains n d') (hc : s'.calls = s.calls)
    (hself : outstanding s' n ≤ d'.elim 0 Drain.awaits)
    (hopen : ∀ e, d' = some e → e.pc = .postSync → e.event = some false)
    (hout : ∀ m, m ≠ n → outstanding s' m ≤ outstanding s m) : Inv s' where
  bound m := by
    rw [hd]
    rcases eq_or_ne m n with rfl | hne
    · rw [Function.update_self]
      exact hself
    · rw [Function.update_of_ne hne]
      exact Nat.le_trans (hout m hne) (h.bound m)
  opened m e he := by
    rw [hd] at he
    rcases eq_or_ne m n with rfl | hne
    · rw [Function.update_self] at he
      exact hopen e he
    · rw [Function.update_of_ne hne] at he
      exact h.opened m e he
  fresh m hm := by
    have hne : m ≠ n := by
      rintro rfl
      exact nomatch (h.fresh m (hc ▸ hm)).symm.trans hn
    rw [hd, Function.update_of_ne hne]
    exact h.fresh m (hc ▸ hm)

theorem Inv.bound_of (h : Inv s) (hn : s.drains n = some d) : outstanding s n ≤ d.awaits := by
  have hb := h.bound n
  rwa [hn] at hb

theorem inv_idle : Inv idle where
  bound _ := Nat.le_refl 0
  opened _ _ hn := nomatch hn
  fresh _ _ := rfl

/-- No packet points to a call that does not wait. -/
theorem Inv.none_of_pc (h : Inv s) (hn : s.drains n = some d) (hpc : d.pc ≠ .waitEvent) :
    outstanding s n = 0 := by
  have hb := h.bound_of hn
  rw [Drain.awaits, if_neg fun hw => hpc hw.1] at hb
  exact Nat.le_zero.1 hb

/-- The loop thread holds the packet it held, if it holds one. -/
theorem outstanding_le_of_loop {m : ℕ} (hpc : s'.loop = .setEvent m → s.loop = .setEvent m)
    (hport : s'.port = s.port) : outstanding s' m ≤ outstanding s m := by
  rw [outstanding, outstanding, hport]
  refine Nat.add_le_add_left ?_ _
  split_ifs with h₁ h₂
  · exact Nat.le_refl 1
  · exact absurd (hpc h₁) h₂
  · exact Nat.zero_le _
  · exact Nat.le_refl 0

theorem inv_call (h : Inv s) {c : Caller} {onLoop : Bool} (hstep : callStep s c onLoop = some s') :
    Inv s' := by
  -- whatever the loop thread does, it deals with no packet now
  have hnew : ∀ pc, (∀ m, pc = .setEvent m → s.loop = .setEvent m) → Inv { s with
      drains := Function.update s.drains s.calls (some ⟨.createEvent, none, false⟩)
      calls := s.calls + 1
      loop := pc } := by
    intro pc hpc
    have hout : ∀ m, outstanding { s with
        drains := Function.update s.drains s.calls (some ⟨.createEvent, none, false⟩)
        calls := s.calls + 1
        loop := pc } m ≤ outstanding s m := by
      exact fun m => outstanding_le_of_loop (hpc m) rfl
    refine ⟨fun m => ?_, fun m e he hp => ?_, fun m hm => ?_⟩
    · rcases eq_or_ne m s.calls with rfl | hne
      · have hb := h.bound s.calls
        rw [h.fresh _ (Nat.le_refl _)] at hb
        exact Nat.le_trans (hout _) (Nat.le_trans hb (Nat.zero_le _))
      · show _ ≤ (Function.update s.drains s.calls _ m).elim 0 Drain.awaits
        rw [Function.update_of_ne hne]
        exact Nat.le_trans (hout m) (h.bound m)
    · have he : Function.update s.drains s.calls _ m = some e := he
      rcases eq_or_ne m s.calls with rfl | hne
      · rw [Function.update_self] at he
        obtain rfl := Option.some.inj he
        exact nomatch hp
      · rw [Function.update_of_ne hne] at he
        exact h.opened m e he hp
    · show Function.update s.drains s.calls _ m = none
      have hlt : s.calls < m := hm
      rw [Function.update_of_ne (Nat.ne_of_gt hlt)]
      exact h.fresh m (Nat.le_of_lt hlt)
  unfold callStep at hstep
  dsimp only at hstep
  split_ifs at hstep
  · split at hstep
    · obtain rfl := Option.some.inj hstep
      exact hnew _ nofun
    · obtain rfl := Option.some.inj hstep
      exact hnew _ nofun
    · exact nomatch hstep
  · obtain rfl := Option.some.inj hstep
    exact hnew s.loop fun _ hm => hm

theorem resume_setEvent {pc : LoopPc} {m : ℕ} (hpc : pc.resume n = .setEvent m) :
    pc = .setEvent m := by
  cases pc with
  | draining k inCallback =>
      simp only [LoopPc.resume] at hpc
      split_ifs at hpc
  | _ => exact hpc

theorem inv_drain (h : Inv s) {ok : Bool} (hstep : drainStep s n ok = some s') : Inv s' := by
  obtain ⟨d, hn, hstep⟩ := Option.bind_eq_some_iff.1 hstep
  have hnone := h.none_of_pc hn
  cases hpc : d.pc with
  | createEvent =>
      have hzero := hnone (by rw [hpc]; exact nofun)
      simp only [hpc] at hstep
      split_ifs at hstep
      · obtain rfl := Option.some.inj hstep
        refine h.update hn rfl rfl ?_ (fun e he _ => ?_) fun m _ => Nat.le_refl _
        · exact Nat.le_trans (Nat.le_of_eq hzero) (Nat.zero_le _)
        · obtain rfl := Option.some.inj he
          rfl
      · obtain rfl := Option.some.inj hstep
        refine h.update hn rfl rfl ?_ (fun e he hp => ?_) fun m _ => Nat.le_refl _
        · exact Nat.le_trans (Nat.le_of_eq hzero) (Nat.zero_le _)
        · obtain rfl := Option.some.inj he
          exact nomatch hp
  | postSync =>
      have hzero := hnone (by rw [hpc]; exact nofun)
      have hevent := h.opened n d hn hpc
      simp only [hpc] at hstep
      obtain rfl := Option.some.inj hstep
      have hawaits : Drain.awaits { d with pc := .waitEvent } = 1 := if_pos ⟨rfl, hevent⟩
      -- one packet more at most, and it points to this call
      have hpost : ∀ m, (if ok then s.port.post (.sync n) else s.port).count (Packet.isSync m) ≤
          s.port.count (Packet.isSync m) + if n = m then 1 else 0 := by
        intro m
        cases ok with
        | false => exact Nat.le_add_right ..
        | true =>
            rw [if_pos rfl, Port.count_post, Packet.isSync]
            simp
      refine h.update hn rfl rfl ?_ (fun e he hp => ?_) fun m hm => ?_
      · have hle := hpost n
        rw [if_pos rfl] at hle
        rw [outstanding] at hzero ⊢
        refine Nat.le_trans (Nat.add_le_add_right hle _) ?_
        show _ ≤ Drain.awaits { d with pc := .waitEvent }
        rw [hawaits]
        show s.port.count (Packet.isSync n) + 1 + (if s.loop = .setEvent n then 1 else 0) ≤ 1
        omega
      · obtain rfl := Option.some.inj he
        exact nomatch hp
      · have hle := hpost m
        rw [if_neg (Ne.symm hm)] at hle
        exact Nat.add_le_add_right hle _
  | waitEvent =>
      simp only [hpc] at hstep
      split_ifs at hstep with hsignal
      obtain rfl := Option.some.inj hstep
      -- the event has been set, so the packet is gone
      have hzero : outstanding s n = 0 := by
        have hb := h.bound_of hn
        rw [Drain.awaits, hsignal, if_neg fun hw => nomatch hw.2] at hb
        exact Nat.le_zero.1 hb
      refine h.update hn rfl rfl ?_ (fun e he hp => ?_) fun m _ => Nat.le_refl _
      · exact Nat.le_trans (Nat.le_of_eq hzero) (Nat.zero_le _)
      · obtain rfl := Option.some.inj he
        exact nomatch hp
  | closeEvent =>
      have hzero := hnone (by rw [hpc]; exact nofun)
      simp only [hpc] at hstep
      obtain rfl := Option.some.inj hstep
      refine h.update hn rfl rfl ?_ (fun e he hp => ?_) fun m _ => Nat.le_refl _
      · exact Nat.le_trans (Nat.le_of_eq hzero) (Nat.zero_le _)
      · obtain rfl := Option.some.inj he
        exact nomatch hp
  | leave =>
      have hzero := hnone (by rw [hpc]; exact nofun)
      simp only [hpc] at hstep
      obtain rfl := Option.some.inj hstep
      have hloop : ∀ m, outstanding { s.setDrain n none with loop := s.loop.resume n } m ≤
          outstanding s m := fun m => outstanding_le_of_loop resume_setEvent rfl
      refine h.update hn rfl rfl ?_ (fun _ he => nomatch he) fun m _ => hloop m
      exact Nat.le_trans (hloop n) (Nat.le_trans (Nat.le_of_eq hzero) (Nat.zero_le _))

/-- A packet is outstanding when the port or the loop thread holds it. -/
theorem outstanding_pos_of_held (hn : Held s n) : 0 < outstanding s n := by
  rcases hn with hbatch | hloop
  · have hpos : 0 < s.port.count (Packet.isSync n) := by
      rw [Port.count_pos_iff]
      exact ⟨_, List.mem_append_right _ (List.mem_append_right _ hbatch), beq_self_eq_true n⟩
    exact Nat.lt_of_lt_of_le hpos (Nat.le_add_right ..)
  · rw [outstanding, if_pos hloop]
    exact Nat.succ_pos _

theorem outstanding_eq_zero (hport : .sync n ∉ s.port.items) (hloop : s.loop ≠ .setEvent n) :
    outstanding s n = 0 := by
  rw [outstanding, if_neg hloop, Nat.add_zero, Port.count_eq_zero]
  rintro p hp hsync
  cases p with
  | other => exact nomatch hsync
  | sync m =>
      obtain rfl := eq_of_beq hsync
      exact hport hp

theorem inv_expire (h : Inv s) (hok : Step.Patient s (.expire n))
    (hstep : expireStep s n = some s') : Inv s' := by
  obtain ⟨d, hn, hstep⟩ := Option.bind_eq_some_iff.1 hstep
  split_ifs at hstep
  obtain rfl := Option.some.inj hstep
  have hzero : outstanding s n = 0 := by
    simp only [Step.Patient, Step.patient, Bool.and_eq_true, Bool.not_eq_true',
      List.contains_eq_mem, decide_eq_false_iff_not, bne_iff_ne] at hok
    exact outstanding_eq_zero hok.1 hok.2
  refine h.update hn rfl rfl ?_ (fun e he hp => ?_) fun m _ => Nat.le_refl _
  · exact Nat.le_trans (Nat.le_of_eq hzero) (Nat.zero_le _)
  · obtain rfl := Option.some.inj he
    exact nomatch hp

theorem inv_next (h : Inv s) (hstep : loopNext s = some s') : Inv s' := by
  unfold loopNext at hstep
  split_ifs at hstep with hloop
  have hnone : ∀ m, outstanding s m = s.port.count (Packet.isSync m) := by
    intro m
    rw [outstanding, hloop]
    rfl
  cases hp : s.port.next with
  | none =>
      rw [hp] at hstep
      obtain rfl := Option.some.inj hstep
      exact h.keep rfl rfl fun m => outstanding_le_of_loop nofun rfl
  | some q =>
      obtain ⟨p, port⟩ := q
      rw [hp] at hstep
      cases p with
      | sync k =>
          obtain rfl := Option.some.inj hstep
          refine h.keep rfl rfl fun m => ?_
          rw [hnone, Port.count_of_next hp, outstanding]
          simp only [LoopPc.setEvent.injEq, Packet.isSync, beq_iff_eq]
          exact Nat.le_refl _
      | other =>
          obtain rfl := Option.some.inj hstep
          refine h.keep rfl rfl fun m => ?_
          rw [hnone, Port.count_of_next hp]
          exact Nat.le_refl _

theorem inv_setEvent (h : Inv s) (hstep : setEventStep s = some s') : Inv s' := by
  unfold setEventStep at hstep
  split at hstep
  · rename_i k hloop
    obtain ⟨d, hn, hstep⟩ := Option.bind_eq_some_iff.1 hstep
    obtain rfl := Option.some.inj hstep
    have hb := h.bound_of hn
    rw [outstanding, if_pos hloop] at hb
    -- the packet was the only one, and the call waits for it
    have hpc : d.pc = .waitEvent := by
      by_contra hne
      rw [Drain.awaits, if_neg fun hw => hne hw.1] at hb
      exact absurd hb (Nat.not_succ_le_zero _)
    have hone : d.awaits ≤ 1 := by
      unfold Drain.awaits
      split_ifs
      · exact Nat.le_refl 1
      · exact Nat.zero_le 1
    have hcount : s.port.count (Packet.isSync k) = 0 := by omega
    refine h.update hn rfl rfl ?_ (fun e he hp => ?_) fun m _ => outstanding_le_of_loop nofun rfl
    · rw [outstanding, if_neg nofun]
      exact Nat.le_trans (Nat.le_of_eq hcount) (Nat.zero_le _)
    · obtain rfl := Option.some.inj he
      exact nomatch hpc.symm.trans hp
  · exact nomatch hstep

theorem inv_step (h : Inv s) {l : Step} (hok : l.Patient s) (hstep : step s l = some s') :
    Inv s' := by
  cases l with
  | call c onLoop => exact inv_call h hstep
  | drain n ok => exact inv_drain h hstep
  | expire n => exact inv_expire h hok hstep
  | next => exact inv_next h hstep
  | setEvent => exact inv_setEvent h hstep
  | enter =>
      simp only [step, Option.ite_none_right_eq_some, Option.some.injEq] at hstep
      obtain ⟨-, rfl⟩ := hstep
      exact h.keep rfl rfl fun m => outstanding_le_of_loop nofun rfl
  | take k =>
      simp only [step, Option.ite_none_right_eq_some, Option.some.injEq] at hstep
      obtain ⟨-, rfl⟩ := hstep
      refine h.keep rfl rfl fun m => ?_
      rw [outstanding, Port.count_take]
      exact Nat.le_add_right ..
  | ret =>
      simp only [step, Option.ite_none_right_eq_some, Option.some.injEq] at hstep
      obtain ⟨-, rfl⟩ := hstep
      exact h.keep rfl rfl fun m => outstanding_le_of_loop nofun rfl
  | post =>
      obtain rfl := Option.some.inj hstep
      refine h.keep rfl rfl fun m => ?_
      rw [outstanding, Port.count_post]
      exact Nat.le_refl _

end

/-- If no wait gives up before its packet has been dealt with, every packet that the loop
has dequeued points to a call that has not returned and whose event is open. -/
theorem sync_live {s : State} {n : ℕ} (h : drainRuns.Reach Step.Patient s) (hn : Held s n) :
    Live s n := by
  have hinv : Inv s := by
    refine h.invariant (I := Inv) ?_ ?_
    · rintro _ rfl
      exact inv_idle
    · exact fun s l s' hi hok hnext => inv_step hi hok hnext
  have hb := Nat.lt_of_lt_of_le (outstanding_pos_of_held hn) (hinv.bound n)
  cases hd : s.drains n with
  | none =>
      rw [hd] at hb
      exact nomatch hb
  | some d =>
      rw [hd] at hb
      refine ⟨d, hd, ?_⟩
      have hawaits : 0 < d.awaits := hb
      rw [Drain.awaits] at hawaits
      split_ifs at hawaits with hw
      · rw [hw.2]
        rfl
      · exact nomatch hawaits

/-- A timer is destroyed while the loop waits for packets. -/
def drainOnce : List Step :=
  [.enter, .call .timerDestroy false, .drain 0 true, .drain 0 true, .take 1, .next]

theorem drainOnce_live : ∃ s, Machine.runGuarded Step.Patient step idle drainOnce = some s ∧
    Held s 0 ∧ Live s 0 := by
  have hrun : ∃ s, Machine.runGuarded Step.Patient step idle drainOnce = some s ∧
      s.loop = .setEvent 0 := ⟨_, rfl, rfl⟩
  obtain ⟨s, hrun, hloop⟩ := hrun
  exact ⟨s, hrun, Or.inr hloop, sync_live (.runGuarded (.init rfl) hrun) (Or.inr hloop)⟩

/-- A timer is destroyed while a callback runs for more than five seconds. -/
def drainInVain : List Step :=
  [.enter, .post, .take 1, .next, .call .timerDestroy false, .drain 0 true, .drain 0 true,
    .expire 0, .drain 0 true, .drain 0 true, .ret, .next, .enter, .take 1, .next]

/-- The packet is dequeued when its call has returned. -/
theorem not_sync_live : ¬∀ s n, drainRuns.Reachable s → Held s n → Live s n := by
  intro hall
  have hrun : ∃ s, Machine.run step idle drainInVain = some s ∧ s.loop = .setEvent 0 ∧
      s.drains 0 = none := ⟨_, rfl, rfl, rfl⟩
  obtain ⟨s, hrun, hloop, hgone⟩ := hrun
  obtain ⟨d, hd, -⟩ := hall s 0 (.run (.init rfl) hrun) (Or.inr hloop)
  exact nomatch hgone.symm.trans hd

/-- A callback of the loop thread destroys a timer. -/
def drainFromCallback : List Step :=
  [.enter, .post, .take 1, .next, .call .timerDestroy true, .drain 0 true, .drain 0 true,
    .expire 0, .drain 0 true, .drain 0 true, .ret, .next, .enter, .take 1, .next]

example : (Machine.run step idle drainFromCallback).map (fun s => (s.loop, s.drains 0)) =
    some (.setEvent 0, none) := rfl

end DrainSync
end Iocp
end PollDancer
