/-
# What is left of a watcher destroyed from another thread

Once `pd_watcher_destroy` has returned, no packet and no operation should name the
watcher, and the loop thread should not hold it.  `iocp_watcher_unregister` waits for
the loop only where it finds a read pending, and `iocp_drain_sync` waits for no more
than the packets that are in the queue when it posts its own: `not_released_on_return`.

Where nothing is left at the exits that do not wait, and the last read has been
completed when the packet of the drain is posted (`Step.Orderly`), the queue does the
rest: what names the watcher is ahead of the packet of the drain, and the loop thread
has let go of it when it meets that packet (`Inv`, `released_on_return`).
-/
import PollDancer.Iocp.CrossThread

namespace PollDancer
namespace Iocp
namespace CrossThread

open Library

/-- Nothing names the watcher, and the loop thread does not hold it. -/
def State.released (s : State) : Bool := (s.port.items.all fun p => !p.names) && !s.loop.holds

/-- Is the loop thread past its last look at `stopping` before a read is issued? -/
def LoopPc.rearming : LoopPc → Bool
  | .rearmMark => true
  | .rearmIssue => true
  | _ => false

/-- Does the next access decide to leave `iocp_watcher_unregister` without waiting for the
loop? -/
def State.leavesAtOnce (s : State) : Bool :=
  match s.destroyer with
  | .entered _ => s.watcher.any fun w => !w.platformData
  | .checkStopping _ => s.data.any fun b => b.stopping
  | .checkPending _ => s.data.any fun b => !b.pendingOperation
  | .checkThread _ => !s.loopThreadId
  | _ => false

/-- The user leaves the watcher alone once it is being destroyed; the destroying thread
leaves without waiting, or waits in vain, only if nothing is left to wait for; and the
packet of the drain is posted when no operation of the watcher is in flight and the loop
thread is not about to issue one. -/
def Step.orderly (s : State) : Step → Bool
  | .update _ => s.destroyer == .before
  | .stop => s.destroyer == .before
  | .clientWrite => s.destroyer == .before
  | .destroy => !s.leavesAtOnce || s.released
  | .createEvent ok => ok || s.released
  | .postSync ok => !ok || (s.port.inflight.all (fun p => !p.names) && !s.loop.rearming)
  | .expire => s.released
  | _ => true

/-- The step is orderly. -/
def Step.Orderly (s : State) (l : Step) : Prop := l.orderly s = true

instance (s : State) (l : Step) : Decidable (Step.Orderly s l) :=
  inferInstanceAs (Decidable (l.orderly s = true))

/-- Has the destroying thread left `iocp_watcher_unregister`, or decided to? -/
def DestroyPc.left : DestroyPc → Bool
  | .freeData _ => true
  | .clearData _ => true
  | .leave .. => true
  | .free => true
  | .returned => true
  | _ => false

/-- Has it set `stopping` and not left yet? -/
def DestroyPc.marked : DestroyPc → Bool
  | .cancel _ => true
  | .checkThread _ => true
  | .createEvent _ => true
  | .postSync _ => true
  | .waitEvent _ => true
  | _ => false

/-- The block is marked for teardown, or gone. -/
def Marked (s : State) : Prop := ∀ b, s.data = some b → b.stopping = true

/-- No operation of the watcher is in flight, and none will be issued. -/
structure Settled (s : State) : Prop where
  begun : s.destroyer ≠ .before
  marked : Marked s
  inflight : ∀ p ∈ s.port.inflight, p.names = false
  loop : s.loop.rearming = false

/-- What holds at every point of an orderly run. -/
structure Inv (s : State) : Prop where
  released : s.destroyer.left = true → s.released = true
  marked : s.destroyer.marked = true → Marked s
  /-- From the post of the drain's packet on, nothing new names the watcher. -/
  settled : .drain ∈ s.port.arrived ∨ s.signalled = true → Settled s
  signalled : s.signalled = true → s.released = true
  /-- What names the watcher is ahead of the drain's packet. -/
  order : s.port.arrived.Pairwise fun p q => p = .drain → q.names = false

section

variable {s s' : State}

theorem released_iff :
    s.released = true ↔ (∀ p ∈ s.port.items, p.names = false) ∧ s.loop.holds = false := by
  simp [State.released]

/-- What a step of the loop thread inside a dispatch does: the port, the event and the
other thread stay, `stopping` is never reset, and a read is on its way only after
`stopping` has been seen clear. -/
structure LoopMoves (s s' : State) : Prop where
  port_eq : s'.port = s.port
  signalled_eq : s'.signalled = s.signalled
  destroyer_eq : s'.destroyer = s.destroyer
  stopping : Marked s → Marked s'
  holds : s'.loop.holds = true → s.loop.holds = true
  rearming : Marked s → s'.loop.rearming = true → s.loop.rearming = true

/-- Only the watcher, its block and the position of the loop thread are written. -/
theorem LoopMoves.write {w : Option Watcher} {d : Option IocpWatcherData} {pc : LoopPc}
    (hholds : s.loop.holds = true) (hd : Marked s → ∀ b, d = some b → b.stopping = true)
    (hpc : Marked s → pc.rearming = true → s.loop.rearming = true) :
    LoopMoves s { s with watcher := w, data := d, loop := pc } :=
  ⟨rfl, rfl, rfl, hd, fun _ => hholds, hpc⟩

theorem loopMoves_of_step (h : loopStep s = some s') : LoopMoves s s' := by
  have hholds : s.loop.holds = true := by
    cases hl : s.loop <;> first | rfl | simp [loopStep, hl] at h
  have hno : ∀ {pc : LoopPc}, pc.rearming = false → Marked s → pc.rearming = true →
      s.loop.rearming = true := fun hpc _ hr => nomatch hpc.symm.trans hr
  cases hl : s.loop with
  | checkStopping p =>
      simp only [loopStep, hl] at h
      obtain ⟨w, -, h⟩ := Option.bind_eq_some_iff.1 h
      split_ifs at h
      · obtain rfl := Option.some.inj h
        exact .write hholds id (hno rfl)
      · obtain ⟨b, -, h⟩ := Option.bind_eq_some_iff.1 h
        obtain rfl := Option.some.inj h
        refine .write hholds id (hno ?_)
        split <;> rfl
  | freeData =>
      simp only [loopStep, hl] at h
      obtain ⟨b, -, h⟩ := Option.bind_eq_some_iff.1 h
      obtain rfl := Option.some.inj h
      exact .write hholds (fun _ _ hb => nomatch hb) (hno rfl)
  | clearData =>
      simp only [loopStep, hl] at h
      obtain ⟨w, -, h⟩ := Option.bind_eq_some_iff.1 h
      obtain rfl := Option.some.inj h
      exact .write hholds id (hno rfl)
  | demux p =>
      simp only [loopStep, hl] at h
      obtain ⟨w, -, h⟩ := Option.bind_eq_some_iff.1 h
      obtain rfl := Option.some.inj h
      refine .write hholds id (hno ?_)
      split
      · rfl
      · split <;> rfl
  | checkStatus n =>
      simp only [loopStep, hl] at h
      obtain ⟨b, -, h⟩ := Option.bind_eq_some_iff.1 h
      obtain rfl := Option.some.inj h
      refine .write hholds id (hno ?_)
      split <;> rfl
  | clearPending =>
      simp only [loopStep, hl] at h
      obtain ⟨w, -, h⟩ := Option.bind_eq_some_iff.1 h
      split_ifs at h
      · obtain rfl := Option.some.inj h
        exact .write hholds id (hno rfl)
      · obtain ⟨b, hb, h⟩ := Option.bind_eq_some_iff.1 h
        obtain rfl := Option.some.inj h
        refine .write hholds (fun hm c hc => ?_) (hno rfl)
        obtain rfl := Option.some.inj hc
        exact hm b hb
  | classify n =>
      simp only [loopStep, hl] at h
      obtain ⟨w, -, h⟩ := Option.bind_eq_some_iff.1 h
      split_ifs at h
      · obtain rfl := Option.some.inj h
        exact .write hholds id (hno rfl)
      · obtain ⟨b, hb, h⟩ := Option.bind_eq_some_iff.1 h
        obtain rfl := Option.some.inj h
        refine .write hholds (fun hm c hc => ?_) (hno rfl)
        obtain rfl := Option.some.inj hc
        exact hm b hb
  | rearmCheck events n =>
      simp only [loopStep, hl] at h
      obtain ⟨w, -, h⟩ := Option.bind_eq_some_iff.1 h
      split_ifs at h
      · obtain rfl := Option.some.inj h
        exact .write hholds id (hno rfl)
      · obtain ⟨b, hb, h⟩ := Option.bind_eq_some_iff.1 h
        obtain rfl := Option.some.inj h
        -- a marked block is seen to be marked
        refine .write hholds id (fun hm hr => ?_)
        rw [if_pos (hm b hb)] at hr
        exact nomatch hr
  | rearmMark =>
      simp only [loopStep, hl] at h
      obtain ⟨b, hb, h⟩ := Option.bind_eq_some_iff.1 h
      obtain rfl := Option.some.inj h
      refine .write hholds (fun hm c hc => ?_) (fun _ _ => by rw [hl]; rfl)
      obtain rfl := Option.some.inj hc
      exact hm b hb
  | retract =>
      simp only [loopStep, hl] at h
      obtain ⟨b, hb, h⟩ := Option.bind_eq_some_iff.1 h
      obtain rfl := Option.some.inj h
      refine .write hholds (fun hm c hc => ?_) (hno rfl)
      obtain rfl := Option.some.inj hc
      exact hm b hb
  | idle => simp [loopStep, hl] at h
  | waiting => simp [loopStep, hl] at h
  | dispatch => simp [loopStep, hl] at h
  | other => simp [loopStep, hl] at h
  | writeCallback => simp [loopStep, hl] at h
  | readCallback events n => simp [loopStep, hl] at h
  | rearmIssue => simp [loopStep, hl] at h

/-- What the steps of the loop thread and the kernel do once the watcher is being
destroyed: nothing new names it. -/
structure Keeps (s s' : State) : Prop where
  destroyer_eq : s'.destroyer = s.destroyer
  signalled_eq : s'.signalled = s.signalled
  released : s.released = true → s'.released = true
  marked : Marked s → Marked s'
  inflight : (∀ p ∈ s.port.inflight, p.names = false) → s.loop.rearming = false →
    ∀ p ∈ s'.port.inflight, p.names = false
  rearming : Marked s → s'.loop.rearming = true → s.loop.rearming = true
  arrived : s'.port.arrived = s.port.arrived ∨ (∃ p, s.port.arrived = p :: s'.port.arrived) ∨
    ∃ p, s'.port.arrived = s.port.arrived ++ [p] ∧ p ≠ .drain ∧
      (p.names = true → ∃ q ∈ s.port.inflight, q.names = true)

theorem Settled.keep (h : Settled s) (hk : Keeps s s') : Settled s' := by
  refine ⟨hk.destroyer_eq ▸ h.begun, hk.marked h.marked, hk.inflight h.inflight h.loop, ?_⟩
  rw [← Bool.not_eq_true]
  intro hr
  exact nomatch h.loop.symm.trans (hk.rearming h.marked hr)

theorem Inv.keep (h : Inv s) (hk : Keeps s s') : Inv s' := by
  refine ⟨fun hleft => ?_, fun hm => ?_, fun hd => ?_, fun hs => ?_, ?_⟩
  · rw [hk.destroyer_eq] at hleft
    exact hk.released (h.released hleft)
  · rw [hk.destroyer_eq] at hm
    exact hk.marked (h.marked hm)
  · refine (h.settled ?_).keep hk
    rw [hk.signalled_eq] at hd
    rcases hk.arrived with ha | ⟨p, ha⟩ | ⟨p, ha, hp, -⟩
    · rw [ha] at hd
      exact hd
    · rw [ha]
      exact hd.imp_left (List.mem_cons_of_mem p)
    · rw [ha, List.mem_append, List.mem_singleton] at hd
      rcases hd with (hd | hd) | hd
      · exact Or.inl hd
      · exact absurd hd.symm hp
      · exact Or.inr hd
  · rw [hk.signalled_eq] at hs
    exact hk.released (h.signalled hs)
  · rcases hk.arrived with ha | ⟨p, ha⟩ | ⟨p, ha, -, hp⟩
    · rw [ha]
      exact h.order
    · exact (List.pairwise_cons.1 (ha ▸ h.order)).2
    · rw [ha, List.pairwise_append]
      refine ⟨h.order, List.pairwise_singleton .., fun q hq r hr hdrain => ?_⟩
      obtain rfl := List.mem_singleton.1 hr
      -- behind the drain's packet nothing of the watcher is in flight
      rw [← Bool.not_eq_true]
      intro hname
      obtain ⟨x, hx, hxn⟩ := hp hname
      have hset := h.settled (Or.inl (hdrain ▸ hq))
      exact nomatch (hset.inflight x hx).symm.trans hxn

theorem LoopMoves.keeps (h : LoopMoves s s') : Keeps s s' := by
  refine ⟨h.destroyer_eq, h.signalled_eq, fun hr => ?_, h.stopping, fun hi _ => ?_, h.rearming, ?_⟩
  · obtain ⟨hitems, hloop⟩ := released_iff.1 hr
    refine released_iff.2 ⟨h.port_eq ▸ hitems, ?_⟩
    rw [← Bool.not_eq_true]
    intro hh
    exact nomatch hloop.symm.trans (h.holds hh)
  · rw [h.port_eq]
    exact hi
  · rw [h.port_eq]
    exact Or.inl rfl

/-- Before the watcher is being destroyed nothing is asked of the other two. -/
theorem Inv.before (h : Inv s) (hb : s.destroyer = .before) (hd : s'.destroyer = s.destroyer)
    (hsig : s'.signalled = s.signalled) (ha : s'.port.arrived = s.port.arrived) : Inv s' := by
  have hno : ¬(.drain ∈ s.port.arrived ∨ s.signalled = true) := fun hs => (h.settled hs).begun hb
  refine ⟨fun hl => ?_, fun hm => ?_, fun hs => ?_, fun hs => ?_, ?_⟩
  · rw [hd, hb] at hl
    exact nomatch hl
  · rw [hd, hb] at hm
    exact nomatch hm
  · rw [ha, hsig] at hs
    exact absurd hs hno
  · rw [hsig] at hs
    exact absurd (Or.inr hs) hno
  · rw [ha]
    exact h.order

/-- The destroying thread moves on. -/
theorem Inv.destroyer (h : Inv s) {w : Option Watcher} {d : Option IocpWatcherData}
    {pc : DestroyPc} (hpc : pc ≠ .before) (hleft : pc.left = true → s.released = true)
    (hmarked : pc.marked = true → ∀ b, d = some b → b.stopping = true)
    (hkeep : Marked s → ∀ b, d = some b → b.stopping = true) :
    Inv { s with watcher := w, data := d, destroyer := pc } :=
  ⟨hleft, hmarked, fun hd => ⟨hpc, hkeep (h.settled hd).marked, (h.settled hd).inflight,
    (h.settled hd).loop⟩, h.signalled, h.order⟩

/-- What one access of the destroying thread preserves. -/
theorem Inv.destroyStep (h : Inv s) (hok : Step.Orderly s .destroy)
    (hstep : destroyStep s = some s') : Inv s' := by
  have hexit : s.leavesAtOnce = true → s.released = true := by
    intro hl
    simpa [Step.Orderly, Step.orderly, hl] using hok
  cases hd : s.destroyer with
  | before =>
      simp only [CrossThread.destroyStep, hd] at hstep
      obtain rfl := Option.some.inj hstep
      exact h.destroyer nofun nofun nofun id
  | stop =>
      simp only [CrossThread.destroyStep, hd] at hstep
      obtain ⟨w, -, hstep⟩ := Option.bind_eq_some_iff.1 hstep
      split_ifs at hstep <;> obtain rfl := Option.some.inj hstep <;>
        exact h.destroyer nofun nofun nofun id
  | entered c =>
      simp only [CrossThread.destroyStep, hd] at hstep
      obtain ⟨w, hw, hstep⟩ := Option.bind_eq_some_iff.1 hstep
      obtain rfl := Option.some.inj hstep
      split_ifs with hp
      · exact h.destroyer nofun nofun nofun id
      · refine h.destroyer nofun (fun _ => hexit ?_) nofun id
        simp [State.leavesAtOnce, hd, hw, hp]
  | checkStopping c =>
      simp only [CrossThread.destroyStep, hd] at hstep
      obtain ⟨b, hb, hstep⟩ := Option.bind_eq_some_iff.1 hstep
      obtain rfl := Option.some.inj hstep
      split_ifs with hp
      · refine h.destroyer nofun (fun _ => hexit ?_) nofun id
        simp [State.leavesAtOnce, hd, hb, hp]
      · exact h.destroyer nofun nofun nofun id
  | checkPending c =>
      simp only [CrossThread.destroyStep, hd] at hstep
      obtain ⟨b, hb, hstep⟩ := Option.bind_eq_some_iff.1 hstep
      obtain rfl := Option.some.inj hstep
      split_ifs with hp
      · exact h.destroyer nofun nofun nofun id
      · refine h.destroyer nofun (fun _ => hexit ?_) nofun id
        simp [State.leavesAtOnce, hd, hb, hp]
  | freeData c =>
      simp only [CrossThread.destroyStep, hd] at hstep
      obtain ⟨w, -, hstep⟩ := Option.bind_eq_some_iff.1 hstep
      obtain rfl := Option.some.inj hstep
      refine h.destroyer nofun (fun _ => h.released (by rw [hd]; rfl)) nofun (fun hm b hb => ?_)
      split_ifs at hb
      exact hm b hb
  | clearData c =>
      simp only [CrossThread.destroyStep, hd] at hstep
      obtain ⟨w, -, hstep⟩ := Option.bind_eq_some_iff.1 hstep
      obtain rfl := Option.some.inj hstep
      exact h.destroyer nofun (fun _ => h.released (by rw [hd]; rfl)) nofun id
  | mark c =>
      simp only [CrossThread.destroyStep, hd] at hstep
      obtain ⟨b, -, hstep⟩ := Option.bind_eq_some_iff.1 hstep
      obtain rfl := Option.some.inj hstep
      have hmark : ∀ c, some { b with stopping := true } = some c → c.stopping = true := by
        intro c hc
        obtain rfl := Option.some.inj hc
        rfl
      exact h.destroyer nofun nofun (fun _ => hmark) (fun _ => hmark)
  | cancel c =>
      simp only [CrossThread.destroyStep, hd] at hstep
      obtain rfl := Option.some.inj hstep
      exact h.destroyer nofun nofun (fun _ => h.marked (by rw [hd]; rfl)) id
  | checkThread c =>
      simp only [CrossThread.destroyStep, hd] at hstep
      obtain rfl := Option.some.inj hstep
      split_ifs with hid
      · exact h.destroyer nofun nofun (fun _ => h.marked (by rw [hd]; rfl)) id
      · refine h.destroyer nofun (fun _ => hexit ?_) nofun id
        simp [State.leavesAtOnce, hd, hid]
  | leave c code =>
      have hrel : s.released = true := h.released (by rw [hd]; rfl)
      cases c with
      | stop =>
          simp only [CrossThread.destroyStep, hd] at hstep
          obtain ⟨w, -, hstep⟩ := Option.bind_eq_some_iff.1 hstep
          obtain rfl := Option.some.inj hstep
          exact h.destroyer nofun nofun nofun id
      | cleanup =>
          simp only [CrossThread.destroyStep, hd] at hstep
          obtain rfl := Option.some.inj hstep
          exact h.destroyer nofun (fun _ => hrel) nofun id
  | free =>
      simp only [CrossThread.destroyStep, hd] at hstep
      obtain ⟨w, -, hstep⟩ := Option.bind_eq_some_iff.1 hstep
      obtain rfl := Option.some.inj hstep
      exact h.destroyer nofun (fun _ => h.released (by rw [hd]; rfl)) nofun id
  | createEvent c => simp [CrossThread.destroyStep, hd] at hstep
  | postSync c => simp [CrossThread.destroyStep, hd] at hstep
  | waitEvent c => simp [CrossThread.destroyStep, hd] at hstep
  | returned => simp [CrossThread.destroyStep, hd] at hstep

/-- The loop thread turns to the next packet.  If it is the drain's, everything of the
watcher has been ahead of it. -/
theorem Inv.next (h : Inv s) (hstep : loopNext s = some s') : Inv s' := by
  unfold loopNext at hstep
  split_ifs at hstep with hl
  have hidle : s.loop.rearming = false := by rw [hl]; rfl
  cases hp : s.port.next with
  | none =>
      rw [hp] at hstep
      obtain rfl := Option.some.inj hstep
      refine h.keep ⟨rfl, rfl, fun hr => ?_, id, fun hi _ => hi, nofun, Or.inl rfl⟩
      exact released_iff.2 ⟨(released_iff.1 hr).1, rfl⟩
  | some r =>
      obtain ⟨p, port⟩ := r
      have ha := Port.arrived_of_next hp
      have hin := Port.inflight_of_next hp
      rw [hp] at hstep
      -- a packet of the watcher is taken up: then something was left
      have htake : ∀ pc : LoopPc, pc.rearming = false → (p.names = false → pc.holds = false) →
          Inv { s with port, loop := pc } := by
        intro pc hpc hholds
        refine h.keep ⟨rfl, rfl, fun hr => ?_, id, fun hi _ => ?_, fun _ hr => ?_,
          Or.inr (Or.inl ⟨p, ha⟩)⟩
        · have hitems := (released_iff.1 hr).1
          refine released_iff.2 ⟨fun q hq => hitems q ?_, hholds (hitems p ?_)⟩
          · exact (Port.mem_of_next hp).2 (Or.inr hq)
          · exact (Port.mem_of_next hp).2 (Or.inl rfl)
        · show ∀ q ∈ port.inflight, q.names = false
          rw [hin]
          exact hi
        · exact nomatch hpc.symm.trans hr
      cases p with
      | read n =>
          obtain rfl := Option.some.inj hstep
          exact htake _ rfl nofun
      | write =>
          obtain rfl := Option.some.inj hstep
          exact htake _ rfl nofun
      | other =>
          obtain rfl := Option.some.inj hstep
          exact htake _ rfl (fun _ => rfl)
      | drain =>
          obtain rfl := Option.some.inj hstep
          have hset : Settled s := h.settled (Or.inl (by rw [ha]; exact List.mem_cons_self))
          have horder := List.pairwise_cons.1 (ha ▸ h.order)
          have hrel : State.released { s with port, signalled := true } = true := by
            refine released_iff.2 ⟨fun q hq => ?_, by rw [hl]; rfl⟩
            rcases Port.mem_items_iff.1 hq with hq | hq
            · exact hset.inflight q (hin ▸ hq)
            · exact horder.1 q hq rfl
          refine ⟨fun _ => hrel, h.marked, fun _ => ?_, fun _ => hrel, horder.2⟩
          exact ⟨hset.begun, hset.marked, fun q hq => hset.inflight q (hin ▸ hq), hidle⟩

/-- The packet of the drain is posted. -/
theorem Inv.post {c : Caller} (h : Inv s) (hd : s.destroyer = .postSync c)
    (hin : ∀ p ∈ s.port.inflight, p.names = false) (hre : s.loop.rearming = false) :
    Inv { s with port := s.port.post .drain, destroyer := .waitEvent c } := by
  have hm : Marked s := h.marked (by rw [hd]; rfl)
  refine ⟨nofun, fun _ => hm, fun _ => ⟨nofun, hm, hin, hre⟩, fun hs => ?_, ?_⟩
  · obtain ⟨hitems, hloop⟩ := released_iff.1 (h.signalled hs)
    refine released_iff.2 ⟨fun p hp => ?_, hloop⟩
    rcases Port.mem_post.1 hp with rfl | hp
    · rfl
    · exact hitems p hp
  · show (s.port.post .drain).arrived.Pairwise _
    rw [Port.arrived_post, List.pairwise_append]
    refine ⟨h.order, List.pairwise_singleton .., fun q _ r hr _ => ?_⟩
    obtain rfl := List.mem_singleton.1 hr
    rfl

/-- An operation of the watcher is completed: its packet names the watcher too. -/
theorem Keeps.complete {p q : Packet} {d : Option IocpWatcherData} (hp : p ∈ s.port.inflight)
    (hname : p.names = true) (hq : q ≠ .drain)
    (hd : Marked s → ∀ b, d = some b → b.stopping = true) :
    Keeps s { s with port := s.port.complete p (some q), data := d } := by
  refine ⟨rfl, rfl, fun hr => ?_, hd, fun hi _ r hr => ?_, fun _ hr => hr,
    Or.inr (Or.inr ⟨q, Port.arrived_complete, hq, fun _ => ⟨p, hp, hname⟩⟩)⟩
  · exact nomatch ((released_iff.1 hr).1 p (List.mem_append_left _ hp)).symm.trans hname
  · exact hi r (List.mem_of_mem_erase hr)

theorem keeps_completeStep {p : Packet} {status : NtStatus} {n : ℕ}
    (hstep : completeStep s p status n = some s') : Keeps s s' := by
  unfold completeStep at hstep
  split_ifs at hstep with hp
  cases p with
  | read m =>
      obtain rfl := Option.some.inj hstep
      refine .complete hp rfl nofun (fun hm b hb => ?_)
      obtain ⟨c, hc, rfl⟩ := Option.map_eq_some_iff.1 hb
      exact hm c hc
  | write =>
      obtain rfl := Option.some.inj hstep
      exact .complete hp rfl nofun id
  | drain => exact nomatch hstep
  | other => exact nomatch hstep

/-- The port stays, or takes or receives packets of others; the loop thread lets go of
the watcher or keeps it. -/
theorem Keeps.quiet {port : Port Packet} {pc : LoopPc} {id : Bool}
    (hin : port.inflight = s.port.inflight)
    (harr : port.arrived = s.port.arrived ∨ port.arrived = s.port.arrived ++ [.other])
    (hholds : pc.holds = true → s.loop.holds = true)
    (hpc : pc.rearming = true → s.loop.rearming = true) :
    Keeps s { s with port, loop := pc, loopThreadId := id } := by
  refine ⟨rfl, rfl, fun hr => ?_, fun hm => hm, fun hi _ => ?_, fun _ => hpc, ?_⟩
  · obtain ⟨hitems, hloop⟩ := released_iff.1 hr
    refine released_iff.2 ⟨fun p hp => ?_, ?_⟩
    · rw [Port.mem_items_iff, hin] at hp
      rcases hp with hp | hp
      · exact hitems p (Port.mem_items_iff.2 (Or.inl hp))
      · rcases harr with ha | ha
        · exact hitems p (Port.mem_items_iff.2 (Or.inr (ha ▸ hp)))
        · rw [ha, List.mem_append, List.mem_singleton] at hp
          rcases hp with hp | rfl
          · exact hitems p (Port.mem_items_iff.2 (Or.inr hp))
          · rfl
    · rw [← Bool.not_eq_true]
      intro hh
      exact nomatch hloop.symm.trans (hholds hh)
  · show ∀ p ∈ port.inflight, p.names = false
    rw [hin]
    exact hi
  · rcases harr with ha | ha
    · exact Or.inl ha
    · exact Or.inr (Or.inr ⟨.other, ha, nofun, nofun⟩)

/-- What the calls on the loop thread leave alone. -/
theorem updateStep_frame {ok : Bool} (h : updateStep s ok = some s') :
    s'.destroyer = s.destroyer ∧ s'.signalled = s.signalled ∧
      s'.port.arrived = s.port.arrived := by
  obtain ⟨w, -, h⟩ := Option.bind_eq_some_iff.1 h
  split at h
  · obtain rfl := Option.some.inj h
    exact ⟨rfl, rfl, rfl⟩
  · obtain ⟨b, -, h⟩ := Option.bind_eq_some_iff.1 h
    split_ifs at h <;> obtain rfl := Option.some.inj h <;> exact ⟨rfl, rfl, rfl⟩

theorem stopStep_frame (h : stopStep s = some s') :
    s'.destroyer = s.destroyer ∧ s'.signalled = s.signalled ∧
      s'.port.arrived = s.port.arrived := by
  obtain ⟨w, -, h⟩ := Option.bind_eq_some_iff.1 h
  split_ifs at h
  · obtain rfl := Option.some.inj h
    exact ⟨rfl, rfl, rfl⟩
  · obtain ⟨b, -, h⟩ := Option.bind_eq_some_iff.1 h
    split_ifs at h <;> obtain rfl := Option.some.inj h <;> exact ⟨rfl, rfl, rfl⟩

/-- What one orderly step preserves. -/
theorem inv_step {l : Step} (h : Inv s) (hok : Step.Orderly s l) (hstep : step s l = some s') :
    Inv s' := by
  cases l with
  | enter =>
      simp only [step, Option.ite_none_right_eq_some] at hstep
      obtain ⟨-, hs⟩ := hstep
      obtain rfl := Option.some.inj hs
      exact h.keep (.quiet rfl (Or.inl rfl) nofun nofun)
  | take n =>
      simp only [step, Option.ite_none_right_eq_some] at hstep
      obtain ⟨-, hs⟩ := hstep
      obtain rfl := Option.some.inj hs
      exact h.keep (.quiet rfl (Or.inl Port.arrived_take) nofun nofun)
  | next => exact h.next hstep
  | loop => exact h.keep (loopMoves_of_step hstep).keeps
  | ret =>
      simp only [step] at hstep
      split at hstep
      · obtain rfl := Option.some.inj hstep
        exact h.keep (.quiet rfl (Or.inl rfl) nofun nofun)
      · obtain rfl := Option.some.inj hstep
        exact h.keep (.quiet rfl (Or.inl rfl) nofun nofun)
      · rename_i hl
        obtain rfl := Option.some.inj hstep
        exact h.keep (.quiet rfl (Or.inl rfl) (fun _ => by rw [hl]; rfl) nofun)
      · exact nomatch hstep
  | issue ok =>
      simp only [step, Option.ite_none_right_eq_some] at hstep
      obtain ⟨hl, hs⟩ := hstep
      obtain ⟨w, -, hs⟩ := Option.bind_eq_some_iff.1 hs
      have hholds : s.loop.holds = true := by rw [hl]; rfl
      have hre : s.loop.rearming = true := by rw [hl]; rfl
      split_ifs at hs
      · obtain rfl := Option.some.inj hs
        -- the loop thread holds the watcher and was about to issue the read
        refine h.keep ⟨rfl, rfl, fun hr => ?_, fun hm b hb => ?_, fun _ hno => ?_, nofun,
          Or.inl rfl⟩
        · exact nomatch (released_iff.1 hr).2.symm.trans hholds
        · obtain ⟨c, hc, rfl⟩ := Option.map_eq_some_iff.1 hb
          exact hm c hc
        · exact nomatch hno.symm.trans hre
      · obtain rfl := Option.some.inj hs
        exact h.keep (.quiet rfl (Or.inl rfl) (fun _ => hholds) nofun)
  | update ok =>
      have hb : s.destroyer = .before := by simpa [Step.Orderly, Step.orderly] using hok
      simp only [step, Option.ite_none_right_eq_some] at hstep
      obtain ⟨hd, hsig, ha⟩ := updateStep_frame hstep.2
      exact h.before hb hd hsig ha
  | stop =>
      have hb : s.destroyer = .before := by simpa [Step.Orderly, Step.orderly] using hok
      simp only [step, Option.ite_none_right_eq_some] at hstep
      obtain ⟨hd, hsig, ha⟩ := stopStep_frame hstep.2
      exact h.before hb hd hsig ha
  | clientWrite =>
      have hb : s.destroyer = .before := by simpa [Step.Orderly, Step.orderly] using hok
      obtain rfl := Option.some.inj hstep
      exact h.before hb rfl rfl rfl
  | post =>
      obtain rfl := Option.some.inj hstep
      exact h.keep (.quiet rfl (Or.inr Port.arrived_post) id id)
  | complete p status n => exact h.keep (keeps_completeStep hstep)
  | destroy => exact h.destroyStep hok hstep
  | createEvent ok =>
      simp only [step] at hstep
      split at hstep
      · rename_i c hd
        have hm : Marked s := h.marked (by rw [hd]; rfl)
        split_ifs at hstep with ho
        · obtain rfl := Option.some.inj hstep
          refine ⟨nofun, fun _ => hm, fun hs => ?_, nofun, h.order⟩
          have hset := h.settled (hs.imp_right (fun hf => nomatch hf))
          exact ⟨nofun, hm, hset.inflight, hset.loop⟩
        · obtain rfl := Option.some.inj hstep
          refine h.destroyer nofun (fun _ => ?_) nofun id
          simpa [Step.Orderly, Step.orderly, ho] using hok
      · exact nomatch hstep
  | postSync ok =>
      simp only [step] at hstep
      split at hstep
      · rename_i c hd
        obtain rfl := Option.some.inj hstep
        cases ok with
        | true =>
            have hok' : (∀ p ∈ s.port.inflight, p.names = false) ∧ s.loop.rearming = false := by
              simpa [Step.Orderly, Step.orderly] using hok
            exact h.post hd hok'.1 hok'.2
        | false => exact h.destroyer nofun nofun (fun _ => h.marked (by rw [hd]; rfl)) id
      · exact nomatch hstep
  | wake =>
      simp only [step] at hstep
      split at hstep
      · split_ifs at hstep with hs
        obtain rfl := Option.some.inj hstep
        exact h.destroyer nofun (fun _ => h.signalled hs) nofun id
      · exact nomatch hstep
  | expire =>
      simp only [step] at hstep
      split at hstep
      · obtain rfl := Option.some.inj hstep
        exact h.destroyer nofun (fun _ => hok) nofun id
      · exact nomatch hstep

theorem inv_init (h : crossRuns.init s) : Inv s := by
  obtain ⟨events, reading, id, rfl⟩ := h
  have harr : (registered events reading id).port.arrived = [] := by
    cases reading <;> rfl
  refine ⟨nofun, nofun, fun hd => ?_, nofun, harr ▸ .nil⟩
  rw [harr] at hd
  rcases hd with hd | hd
  · exact absurd hd List.not_mem_nil
  · exact nomatch hd

/-- If `pd_watcher_destroy` has returned, nothing names the watcher, and the loop thread
does not hold it. -/
def ReleasedOnReturn (s : State) : Prop := s.destroyer = .returned → s.released = true

instance (s : State) : Decidable (ReleasedOnReturn s) :=
  inferInstanceAs (Decidable (_ → _))

/-- In an orderly run a watcher that has been destroyed from another thread is released:
no packet and no operation names it, and the loop thread does not hold it. -/
theorem released_on_return (h : crossRuns.Reach Step.Orderly s) : ReleasedOnReturn s := by
  have hinv : Inv s := h.invariant (fun _ => inv_init) fun _ _ _ hi hok hnext =>
    inv_step hi hok hnext
  intro hret
  exact hinv.released (by rw [hret]; rfl)

end

/-- A watcher with a read in flight, on a loop that runs. -/
def reading : State := registered .read true true

theorem init_reading : crossRuns.init reading := ⟨.read, true, true, rfl⟩

/-- The destroying thread finds the read pending; it is cancelled at once, and the packet
of the drain is behind its packet. -/
def drained : List Step :=
  [.enter, .destroy, .destroy, .destroy, .destroy, .destroy, .destroy, .destroy, .destroy,
    .createEvent true, .complete (.read 0) STATUS_CANCELLED 0, .postSync true, .take 2, .next,
    .loop, .loop, .loop, .next, .wake, .destroy, .destroy, .destroy, .destroy]

theorem drained_released : ∃ s, Machine.runGuarded Step.Orderly step reading drained = some s ∧
    s.destroyer = .returned ∧ ReleasedOnReturn s := by
  have hrun : ∃ s, Machine.runGuarded Step.Orderly step reading drained = some s ∧
      s.destroyer = .returned := ⟨_, rfl, rfl⟩
  obtain ⟨s, hrun, hret⟩ := hrun
  exact ⟨s, hrun, hret, released_on_return (.runGuarded (.init init_reading) hrun)⟩

/-- The read completes with a byte; while its callback runs, the destroying thread finds
no read pending, frees the platform data and the watcher, and returns. -/
def destroyedInCallback : List Step :=
  [.enter, .complete (.read 0) STATUS_SUCCESS 1, .take 1, .next, .loop, .loop, .loop, .loop,
    .destroy, .destroy, .destroy, .destroy, .destroy, .destroy, .destroy, .destroy, .destroy,
    .destroy, .destroy]

/-- `pd_watcher_destroy` can return while the loop thread holds the watcher. -/
theorem not_released_on_return : ¬∀ s, crossRuns.Reachable s → ReleasedOnReturn s := by
  intro h
  have hrun : ∃ s, Machine.run step reading destroyedInCallback = some s ∧
      ¬ReleasedOnReturn s := ⟨_, rfl, by decide⟩
  obtain ⟨s, hrun, hnot⟩ := hrun
  exact hnot (h s (Machine.Reach.run (.init init_reading) hrun))

end CrossThread
end Iocp
end PollDancer
