/-
# One read at a time

Reads are issued from four places: the two registrations, `iocp_watcher_update` and the
re-arm at the end of `iocp_loop_run`.  `iocp_watcher_update` looks at
`pending_operation` first.  The others do not: a registration has just allocated its
block, and the re-arm follows a completion, which has cleared the flag before the
callback that may have issued a read itself.  So two reads can be in flight on one
`OVERLAPPED` and its buffer: `not_reads_exclusive`.

The flag is right all the same: a block with a read outstanding has it set
(`SingleRead`).  With it, reads stay apart if the re-arm and the allocator meet no
outstanding read (`Step.Single`): `reads_exclusive`.
-/
import PollDancer.Iocp.Loop

namespace PollDancer
namespace Iocp

open Library

/-- At most one read is outstanding on every `OVERLAPPED`, and none was when it was
zeroed, handed to a read, or had its buffer moved. -/
def Exclusive (k : IocpSys) : Prop := (∀ d, k.outstanding d ≤ 1) ∧ k.overlaps = []

/-- The address that `calloc` returns for the platform data, if the call asks for it. -/
def dataAllocFor : Call IocpEnv → Option Addr
  | .create _ _ _ _ env => env.backend.dataAlloc
  | .createForHandle _ _ _ _ env => env.backend.dataAlloc
  | .start _ env => env.dataAlloc
  | _ => none

/-- The block in which `iocp_watcher_drain_read` moves bytes down. -/
def movedDown (w : IocpWorld) (a : Addr) (len : ℕ) : Option Addr := do
  let x ← w.heap a
  let d ← x.platformData
  let b ← w.sys.blocks d
  if 0 < len ∧ len < b.bytesAvailable then some d else none

/-- The block on which the loop re-issues a read when the callback returns. -/
def rearmed (w : IocpWorld) : Frame → Option Addr
  | .read a events bytes => do
      let x ← w.heap a
      let d ← x.platformData
      let b ← w.sys.blocks d
      if events.has .read ∧ 0 < bytes ∧ b.stopping = false then some d else none
  | _ => none

/-- No read is outstanding on the block, if there is one. -/
def unread (k : IocpSys) (p : Option Addr) : Bool := p.all fun d => k.outstanding d == 0

/-- The callback of a read returns with no read outstanding where the loop will re-issue
one, no new block has an address on which a read is outstanding, and bytes are moved
only while none is. -/
def Step.single (s : State) : Step → Bool
  | .call c => unread s.world.sys (dataAllocFor c)
  | .drainRead w len => unread s.world.sys (movedDown s.world w len)
  | .ret _ =>
      match s.mode with
      | .callback f => unread s.world.sys (rearmed s.world f)
      | _ => true
  | _ => true

/-- The step meets no outstanding read. -/
def Step.Single (s : State) (l : Step) : Prop := l.single s = true

instance (s : State) (l : Step) : Decidable (Step.Single s l) :=
  inferInstanceAs (Decidable (l.single s = true))

/-- At most one read is outstanding on each block, and then `pending_operation` says
so. -/
structure SingleRead (k : IocpSys) : Prop where
  outstanding_le : ∀ d, k.outstanding d ≤ 1
  pending : ∀ d b, k.blocks d = some b → 0 < k.outstanding d → b.pendingOperation = true
  overlaps : k.overlaps = []

section Backend

variable {k k' : IocpSys} {d : Addr} {b : IocpWatcherData} {h : Handle}
  {refused : Option WinError} {key : Addr} {n : ℕ}

/-- No new operation, no block written without need, and the blocks that are there say
what they said about reads. -/
theorem SingleRead.of_le (hk : SingleRead k) (hle : ∀ d, k'.outstanding d ≤ k.outstanding d)
    (hblocks : ∀ d b, k'.blocks d = some b → 0 < k'.outstanding d → b.pendingOperation = true)
    (hover : k'.overlaps = k.overlaps) : SingleRead k' :=
  ⟨fun d => Nat.le_trans (hle d) (hk.outstanding_le d), hblocks, hover.trans hk.overlaps⟩

/-- The port changes, and no read comes in. -/
theorem SingleRead.setPort {port : Port Packet} (hk : SingleRead k)
    (hle : ∀ d, port.count (Packet.reads d) ≤ k.outstanding d) : SingleRead (k.setPort port) :=
  hk.of_le hle (fun d b hb hpos => hk.pending d b hb (Nat.lt_of_lt_of_le hpos (hle d))) rfl

theorem SingleRead.setError (hk : SingleRead k) (e : WinError) : SingleRead (k.setError e) :=
  ⟨hk.outstanding_le, hk.pending, hk.overlaps⟩

theorem SingleRead.setFault (hk : SingleRead k) : SingleRead k.setFault :=
  ⟨hk.outstanding_le, hk.pending, hk.overlaps⟩

/-- A block is written that says so if a read is outstanding on it. -/
theorem SingleRead.setBlock (hk : SingleRead k)
    (hb : 0 < k.outstanding d → b.pendingOperation = true) : SingleRead (k.setBlock d b) := by
  refine hk.of_le (fun _ => Nat.le_refl _) (fun e c hc he => ?_) rfl
  rcases eq_or_ne e d with rfl | hne
  · obtain rfl := Option.some.inj (IocpSys.setBlock_blocks_self.symm.trans hc)
    exact hb he
  · exact hk.pending e c ((IocpSys.setBlock_blocks_ne hne).symm.trans hc) he

theorem SingleRead.freeBlock (hk : SingleRead k) : SingleRead (k.freeBlock d) := by
  refine hk.of_le (fun _ => Nat.le_refl _) (fun e c hc he => ?_) rfl
  rcases eq_or_ne e d with rfl | hne
  · exact nomatch IocpSys.freeBlock_blocks_self.symm.trans hc
  · exact hk.pending e c ((IocpSys.freeBlock_blocks_ne hne).symm.trans hc) he

theorem touch_eq (h₀ : k.outstanding d = 0) : k.touch d = k := by
  rw [IocpSys.touch, if_neg (by omega)]

/-- A block without an outstanding read is written and handed to a read. -/
theorem SingleRead.issue (hk : SingleRead k) (h₀ : k.outstanding d = 0)
    (hb : b.pendingOperation = true) :
    SingleRead ((k.setBlock d b).setPort (k.port.issue (.io key (.data d) n))) := by
  have hcount : ∀ e, ((k.setBlock d b).setPort (k.port.issue (.io key (.data d) n))).outstanding e =
      k.outstanding e + if d = e then 1 else 0 := by
    intro e
    refine Port.count_issue.trans ?_
    simp [Packet.reads, IocpSys.outstanding]
  refine ⟨fun e => ?_, fun e c hc he => ?_, hk.overlaps⟩
  · rw [hcount e]
    have hle := hk.outstanding_le e
    split
    · rename_i heq
      subst heq
      omega
    · omega
  · rcases eq_or_ne e d with rfl | hne
    · obtain rfl := Option.some.inj (IocpSys.setBlock_blocks_self.symm.trans hc)
      exact hb
    · rw [hcount e, if_neg hne.symm] at he
      exact hk.pending e c ((IocpSys.setBlock_blocks_ne hne).symm.trans hc) (by omega)

/-- The same, with the block written as the source does: zeroed and marked before the
read is issued. -/
theorem SingleRead.issueRead (hk : SingleRead k) (h₀ : k.outstanding d = 0)
    (hb : b.pendingOperation = true)
    (hread : (k.setBlock d b).issueRead h d b refused = .ok k') : SingleRead k' := by
  have h₁ : (k.setBlock d b).outstanding d = 0 := h₀
  rw [IocpSys.issueRead_ok hread, touch_eq h₁, IocpSys.setBlock_setBlock]
  exact hk.issue h₀ hb

/-- Registering keeps the reads apart if the new block has no read outstanding. -/
theorem SingleRead.registerOn {a : Addr} {w : PdWatcher Addr} {env : IocpEnv} {u : Option Addr}
    {v : Addr → Option Addr} (hk : SingleRead k)
    (hfresh : ∀ d, env.dataAlloc = some d → k.outstanding d = 0) :
    SingleRead (registerOn k a w h env u v).sys := by
  unfold Iocp.registerOn
  cases hd : k.calloc env.dataAlloc with
  | none => exact hk.setError _
  | some d =>
      have h₀ : k.outstanding d = 0 :=
        hfresh d (Option.eq_some_of_filter_eq_some hd)
      dsimp only
      rw [touch_eq h₀]
      have hnew : SingleRead (k.setBlock d (newData w.events)) := hk.setBlock (fun hpos => by omega)
      split
      · exact (hnew.setError _).freeBlock
      · rename_i k₁ hassoc
        have hk₁ : SingleRead k₁ := by
          rw [IocpSys.associate_ok hassoc]
          exact ⟨hnew.outstanding_le, hnew.pending, hnew.overlaps⟩
        have h₁ : k₁.outstanding d = 0 := by
          rw [IocpSys.associate_ok hassoc]
          exact h₀
        split_ifs
        · split
          · exact (hk₁.setError _).freeBlock
          · rename_i k₂ hread
            -- `pending_operation` is set once the read is in flight
            rw [IocpSys.issueRead_ok hread, touch_eq h₁]
            have heq : ∀ b₁ b₂ port, ((k₁.setBlock d b₁).setPort port).setBlock d b₂ =
                ((k₁.setBlock d b₁).setBlock d b₂).setPort port := fun _ _ _ => rfl
            rw [heq, IocpSys.setBlock_setBlock]
            exact hk₁.issue h₁ rfl
        · exact hk₁

/-- Updating looks at `pending_operation`, and so finds an outstanding read. -/
theorem SingleRead.update {a : Addr} {w : PdWatcher Addr} {events : PdEvent} {env : IocpEnv}
    (hk : SingleRead k) : SingleRead (iocpWatcherUpdate k a w events env).sys := by
  unfold iocpWatcherUpdate
  cases w.platformData with
  | none => exact hk
  | some d =>
      dsimp only
      cases hb : k.blocks d with
      | none => exact hk.setFault
      | some b =>
          have hpending := hk.pending d b hb
          dsimp only
          split_ifs with hread
          · have h₀ : k.outstanding d = 0 := by
              rw [Bool.and_eq_true, Bool.not_eq_true'] at hread
              by_contra hpos
              exact nomatch hread.2.symm.trans (hpending (by omega))
            rw [touch_eq h₀]
            split
            · exact (hk.setBlock (fun _ => rfl)).setError _
            · rename_i k₁ hissue
              exact hk.issueRead h₀ rfl hissue
          · exact hk.setBlock hpending

theorem SingleRead.unregister {a : Addr} {w : PdWatcher Addr} (hk : SingleRead k) :
    SingleRead (iocpWatcherUnregister k a w).sys := by
  unfold iocpWatcherUnregister
  cases w.platformData with
  | none => exact hk
  | some d =>
      dsimp only
      cases hb : k.blocks d with
      | none => exact hk.setFault
      | some b =>
          dsimp only
          split_ifs
          · exact hk
          · exact hk.freeBlock
          · exact hk.setBlock (hk.pending d b hb)

/-- A packet that is posted is no read. -/
theorem count_post_signal {port : Port Packet} {p : Packet} (hp : p.isSignal = true) :
    (port.post p).count (Packet.reads d) = port.count (Packet.reads d) := by
  rw [Port.count_post, not_reads_of_isSignal hp d]
  rfl

/-- A completion adds no read: its packet is the read that was in flight. -/
theorem count_complete_reads {port : Port Packet} {o : Overlapped} {m : ℕ}
    (hp : .io key o n ∈ port.inflight) :
    (port.complete (.io key o n) (if key = NULL then none else some (.io key o m))).count
      (Packet.reads d) ≤ port.count (Packet.reads d) := by
  refine Port.count_complete_le hp (fun q hq hr => ?_)
  split_ifs at hq
  obtain rfl := Option.some.inj hq
  cases o with
  | client => exact hr
  | data e => exact hr

/-- The kernel completes an operation. -/
theorem SingleRead.complete {o : Overlapped} {status : NtStatus} {data : List UInt8}
    (hk : SingleRead k) (hp : .io key o n ∈ k.port.inflight) :
    SingleRead (k.complete (.io key o n) key o status data) := by
  have hport : SingleRead (k.setPort (k.port.complete (.io key o n)
      (if key = NULL then none else some (.io key o data.length)))) :=
    hk.setPort fun _ => count_complete_reads hp
  unfold IocpSys.complete
  cases o with
  | client => exact hport
  | data d =>
      dsimp only
      split
      · exact hport
      · rename_i b hb
        exact hport.setBlock (hport.pending d b hb)

end Backend

section Loop

variable {s s' : State} {w : IocpWorld}

theorem dataAllocFor_of_registers {c : Call IocpEnv} {a : Addr} {env : IocpEnv}
    (h : c.Registers w a env) : dataAllocFor c = env.dataAlloc := by
  cases c with
  | create => rw [h.2]; rfl
  | createForHandle => rw [h.2]; rfl
  | start => rw [h.2.2]; rfl
  | update => exact h.elim
  | stop => exact h.elim
  | destroy => exact h.elim

/-- What a call preserves. -/
theorem SingleRead.exec {c : Call IocpEnv} (hk : SingleRead w.sys)
    (hfresh : unread w.sys (dataAllocFor c) = true) :
    SingleRead (w.exec iocpOps c).1.sys := by
  have hnew : ∀ a e, c.Registers w a e → ∀ d, e.dataAlloc = some d → w.sys.outstanding d = 0 := by
    intro a e hr d hd
    simpa [unread, dataAllocFor_of_registers hr, hd] using hfresh
  refine World.exec_sys (P := SingleRead) c hk ?_ ?_ ?_ ?_
  · exact fun k a x h => h.unregister (a := a)
  · exact fun a x e hr => hk.registerOn (hnew a e hr)
  · intro a x e hr
    simp only [iocpOps, iocpWatcherRegisterHandle]
    split_ifs
    · exact hk
    · exact hk.registerOn (hnew a e hr)
  · exact fun a x events e _ _ => hk.update (a := a)

theorem SingleRead.drainRead {a : Addr} {x : PdWatcher Addr} {len : ℕ} (hk : SingleRead w.sys)
    (hx : w.heap a = some x) (hmoved : unread w.sys (movedDown w a len) = true) :
    SingleRead (iocpWatcherDrainRead w.sys x len).1 := by
  unfold iocpWatcherDrainRead
  cases hd : x.platformData with
  | none => exact hk
  | some d =>
      dsimp only
      split_ifs with hlen
      · exact hk
      · cases hb : w.sys.blocks d with
        | none => exact hk.setFault
        | some b =>
            dsimp only
            split_ifs with havail hrest
            · exact hk
            · have hmv : movedDown w a len = some d := by
                simp only [movedDown, hx, hd, hb, Option.bind_eq_bind, Option.bind_some]
                rw [if_pos (by omega)]
              have h₀ : w.sys.outstanding d = 0 := by
                simpa [unread, hmv] using hmoved
              rw [touch_eq h₀]
              exact hk.setBlock (hk.pending d b hb)
            · exact hk.setBlock (hk.pending d b hb)

/-- The loop turns to a packet: if it is a read, no read on that block is left. -/
theorem SingleRead.next {k : IocpSys} {p : Packet} {port : Port Packet} (hk : SingleRead k)
    (hp : k.port.next = some (p, port)) :
    SingleRead (k.setPort port) ∧ ∀ d, p.reads d = true → (k.setPort port).outstanding d = 0 := by
  have hcount : ∀ d, k.outstanding d =
      (k.setPort port).outstanding d + if p.reads d = true then 1 else 0 :=
    fun d => Port.count_of_next hp
  refine ⟨hk.setPort (fun d => ?_), fun d hd => ?_⟩
  · rw [hcount d]
    exact Nat.le_add_right ..
  · have hle := hk.outstanding_le d
    have := hcount d
    rw [if_pos hd] at this
    omega

/-- Taking up a packet clears `pending_operation` only for the read it completes. -/
theorem SingleRead.takeUp {p : Packet} (hk : SingleRead w.sys)
    (hp : ∀ d, p.reads d = true → w.sys.outstanding d = 0) :
    SingleRead (takeUp w p).1.sys := by
  cases p with
  | sync => exact hk
  | timer fires => exact hk
  | wake => exact hk
  | io u o bytes =>
      unfold Iocp.takeUp
      dsimp only
      split_ifs
      · exact hk
      · cases w.heap u with
        | none => exact hk
        | some x =>
            dsimp only
            split_ifs
            · exact hk
            · cases x.platformData with
              | none => exact hk
              | some d =>
                  dsimp only
                  cases w.sys.blocks d with
                  | none => exact hk.setFault
                  | some b =>
                      have hclear : o = .data d → ∀ c, SingleRead (w.sys.setBlock d c) := by
                        rintro rfl c
                        have h₀ := hp d (beq_self_eq_true d)
                        exact hk.setBlock (fun hpos => by omega)
                      dsimp only
                      split_ifs with hstop ho
                      · exact hk.freeBlock
                      · exact hk
                      · exact hclear (not_not.1 ho) _
                      · exact hclear (not_not.1 ho) _
                      · exact hclear (not_not.1 ho) _

/-- Re-arming keeps the reads apart if none is outstanding on the block. -/
theorem SingleRead.rearm {f : Frame} {refused : Option WinError} (hk : SingleRead w.sys)
    (hfree : unread w.sys (rearmed w f) = true) : SingleRead (rearm w refused f).1.sys := by
  cases f with
  | timer => exact hk
  | write u => exact hk
  | read u events bytes =>
      unfold Iocp.rearm
      dsimp only
      cases hx : w.heap u with
      | none => exact hk
      | some x =>
          dsimp only
          cases hd : x.platformData with
          | none => exact hk
          | some d =>
              dsimp only
              split_ifs with hread
              · cases hb : w.sys.blocks d with
                | none => exact hk.setFault
                | some b =>
                    dsimp only
                    split_ifs with hstop
                    · exact hk
                    · have hre : rearmed w (.read u events bytes) = some d := by
                        simp only [rearmed, hx, hd, hb, Option.bind_eq_bind, Option.bind_some]
                        simp only [Bool.and_eq_true, decide_eq_true_eq] at hread
                        rw [if_pos ⟨hread.1, hread.2, Bool.not_eq_true _ ▸ hstop⟩]
                      have h₀ : w.sys.outstanding d = 0 := by
                        simpa [unread, hre] using hfree
                      rw [touch_eq h₀]
                      split
                      · rw [IocpSys.setBlock_setBlock]
                        exact hk.setBlock (fun hpos => by omega)
                      · rename_i k hissue
                        exact hk.issueRead h₀ rfl hissue
              · exact hk

theorem singleRead_init (h : Init s) : SingleRead s.world.sys := by
  obtain ⟨-, -, -, -, -, -, hport, -, hover⟩ := h
  have h₀ : ∀ d, s.world.sys.outstanding d = 0 := by
    intro d
    rw [IocpSys.outstanding, hport, Port.count_empty]
  refine ⟨fun d => ?_, fun d _ _ hpos => ?_, hover⟩
  · have := h₀ d
    omega
  · have := h₀ d
    omega

/-- What one step preserves. -/
theorem singleRead_step {l : Step} (h : SingleRead s.world.sys) (hok : Step.Single s l)
    (hstep : step s l = some s') : SingleRead s'.world.sys := by
  cases stepped_of_step hstep with
  | call => exact h.exec hok
  | drainRead hx => exact h.drainRead hx hok
  | openHandle => exact ⟨h.outstanding_le, h.pending, h.overlaps⟩
  | closeHandle => exact ⟨h.outstanding_le, h.pending, h.overlaps⟩
  | clientWrite => exact h.setPort (fun d => Nat.le_of_eq Port.count_issue)
  | complete hp => exact h.complete hp
  | post hp => exact h.setPort (fun d => Nat.le_of_eq (count_post_signal hp))
  | wait => exact h.setPort (fun d => Nat.le_of_eq Port.count_take)
  | waitFailed => exact h.setError _
  | done => exact h
  | next hp => exact (h.next hp).1.takeUp (h.next hp).2
  | @ret f refused hmode =>
      have hfree : unread s.world.sys (rearmed s.world f) = true := by
        simpa [Step.Single, Step.single, hmode] using hok
      exact h.rearm hfree

/-- If no callback of a read returns with a read outstanding where the loop issues the
next one, no new block takes the address of one on which a read is outstanding, and no
bytes are moved under a read, then reads never share an `OVERLAPPED` or a buffer. -/
theorem reads_exclusive (h : iocpRuns.Reach Step.Single s) : Exclusive s.world.sys := by
  have hsingle : SingleRead s.world.sys := h.invariant (I := fun s => SingleRead s.world.sys)
    (fun _ => singleRead_init) fun _ _ _ hi hok hnext => singleRead_step hi hok hnext
  exact ⟨hsingle.outstanding_le, hsingle.overlaps⟩

end Loop

/-- A read arrives, its callback drains it, and the loop issues the next one. -/
def drainAndRearm : List Step := readArrives ++ [.drainRead 100 4096, .ret none, .next]

theorem drainAndRearm_exclusive : ∃ s, Machine.runGuarded Step.Single step iocpLoopCreate
    drainAndRearm = some s ∧ s.world.sys.outstanding 200 = 1 ∧ Exclusive s.world.sys := by
  have hrun : ∃ s, Machine.runGuarded Step.Single step iocpLoopCreate drainAndRearm = some s ∧
      s.world.sys.outstanding 200 = 1 := ⟨_, rfl, rfl⟩
  obtain ⟨s, hrun, hone⟩ := hrun
  exact ⟨s, hrun, hone, reads_exclusive (.runGuarded (.init init_iocpLoopCreate) hrun)⟩

/-- The callback asks for reads itself, and returns. -/
def updateInCallback : List Step :=
  readArrives ++ [.call (.update 100 .read ⟨none, none, none, 0⟩), .ret none]

/-- Two reads can be in flight on one `OVERLAPPED`. -/
theorem not_reads_exclusive : ¬∀ s, iocpRuns.Reachable s → Exclusive s.world.sys := by
  intro h
  have hrun : ∃ s, Machine.run step iocpLoopCreate updateInCallback = some s ∧
      s.world.sys.outstanding 200 = 2 := ⟨_, rfl, rfl⟩
  obtain ⟨s, hrun, htwo⟩ := hrun
  have hle := (h s (Machine.Reach.run (.init init_iocpLoopCreate) hrun)).1 200
  omega

end Iocp
end PollDancer
