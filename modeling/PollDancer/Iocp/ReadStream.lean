/-
# The bytes of a reader

A completed read leaves its bytes in the buffer of the platform data, and
`iocp_watcher_drain_read` hands them out: what a call does not take is moved to the front
of the buffer for the next.  The loop issues the next read into the same buffer when the
callback returns, whatever is left there, and a completion sets `bytes_available` to its
own length.  So bytes that a callback has left are overwritten: `not_drained_prefix`.

If every read completes on a drained buffer, what the calls return is a prefix of what the
kernel has delivered: `drained_prefix`.
-/
import PollDancer.Iocp.Ownership

namespace PollDancer
namespace Iocp

open Library

/-- What the kernel has delivered into the buffer of a watcher, and what
`pd_watcher_drain_read` has returned. -/
structure Traffic where
  delivered : List UInt8
  drained : List UInt8
  deriving DecidableEq, Repr

/-- The traffic of the watcher `a` after a step. -/
def noteTraffic (a : Addr) (s : State) (l : Step) (t : Traffic) : Traffic :=
  match l with
  | .complete (.io _ (.data d) _) _ data =>
      if (s.world.heap a).any fun x => x.platformData == some d then
        { t with delivered := t.delivered ++ data }
      else t
  | .drainRead b len =>
      match s.world.heap a with
      | none => t
      | some x =>
          if b = a then
            { t with drained := t.drained ++ (iocpWatcherDrainRead s.world.sys x len).2 }
          else t
  | _ => t

/-- The runs of an IOCP loop, with the traffic of one watcher. -/
def trafficRuns (a : Addr) : Machine (State × Traffic) Step :=
  Machine.recorded Init step ⟨[], []⟩ (noteTraffic a)

/-- The call neither stops, destroys nor updates the watcher. -/
def leavesAlone (a : Addr) : Call IocpEnv → Bool
  | .stop b => b != a
  | .destroy b => b != a
  | .update b .. => b != a
  | _ => true

/-- The watcher is left alone; its platform data is at an address that no read and no
other watcher refers to; and its reads complete on a drained buffer. -/
def Step.drains (a : Addr) (s : State) : Step → Bool
  | .call c => leavesAlone a c && (c.callocs != some a ||
      freshData s.world c && unread s.world.sys (dataAllocFor c))
  | .complete p _ data => data.isEmpty || (blockOf s.world a).all fun r =>
      !p.reads r.1 || r.2.bytesAvailable == 0
  | _ => true

/-- The step loses no byte of the watcher. -/
def Step.Drains (a : Addr) (s : State × Traffic) (l : Step) : Prop := l.drains a s.1 = true

instance (a : Addr) (s : State × Traffic) (l : Step) : Decidable (Step.Drains a s l) :=
  inferInstanceAs (Decidable (l.drains a s.1 = true))

/-- What is there for `pd_watcher_drain_read`. -/
def IocpWatcherData.held (b : IocpWatcherData) : List UInt8 := b.buffer.take b.bytesAvailable

section Buffers

variable {b : IocpWatcherData} {len : ℕ}

/-- What a call returns comes before what it leaves. -/
theorem held_drained (hle : b.bytesAvailable ≤ b.buffer.length) :
    b.buffer.take (min b.bytesAvailable len) ++ (drained len b).held = b.held := by
  unfold IocpWatcherData.held drained
  dsimp only
  rcases Nat.lt_or_ge len b.bytesAvailable with hlt | hge
  · have hmoved : ((b.buffer.drop len).take (b.bytesAvailable - len)).length =
        b.bytesAvailable - len := by
      rw [List.length_take, List.length_drop]
      omega
    rw [if_pos hlt, Nat.min_eq_right (Nat.le_of_lt hlt), moveDown, List.take_append_of_le_length
      (Nat.le_of_eq hmoved.symm), List.take_of_length_le (Nat.le_of_eq hmoved), ← List.take_add]
    congr 1
    omega
  · rw [Nat.sub_eq_zero_of_le hge, Nat.min_eq_left hge, List.take_zero, List.append_nil]

theorem length_drained (hle : b.bytesAvailable ≤ b.buffer.length) :
    (drained len b).buffer.length = b.buffer.length := by
  unfold drained
  dsimp only
  split_ifs with hlt
  · simp only [moveDown, List.length_append, List.length_take, List.length_drop]
    omega
  · rfl

/-- What a call returns. -/
theorem drainRead_bytes {k : IocpSys} {x : PdWatcher Addr} {d : Addr}
    (hpd : x.platformData = some d) (hb : k.blocks d = some b) :
    (iocpWatcherDrainRead k x len).2 = b.buffer.take (min b.bytesAvailable len) := by
  unfold iocpWatcherDrainRead
  rw [hpd]
  dsimp only
  split_ifs with hlen
  · rw [hlen, Nat.min_zero, List.take_zero]
  · rw [hb]
    dsimp only
    split_ifs with hzero
    · rw [hzero, Nat.zero_min, List.take_zero]
    · rfl
    · rfl

end Buffers

/-- How many reads on the block are in flight. -/
def pendingReads (k : IocpSys) (d : Addr) : ℕ := k.port.inflight.countP (Packet.reads d)

/-- The packets of reads on the block that the loop has not taken up. -/
def completedReads (k : IocpSys) (d : Addr) : List Packet :=
  k.port.arrived.filter (Packet.reads d)

/-- Where the bytes of the reads on the block are. -/
inductive Flow (k : IocpSys) (d : Addr) (b : IocpWatcherData) (t : Traffic) : Prop
  /-- What has not been drained is held. -/
  | waiting : pendingReads k d ≤ 1 → completedReads k d = [] →
      t.delivered = t.drained ++ b.held → Flow k d b t
  /-- The bytes of a completion are in the buffer, and the loop does not know yet. -/
  | completed {key : Addr} {n : ℕ} : pendingReads k d = 0 →
      completedReads k d = [.io key (.data d) n] → n ≤ bufferSize → n = 0 ∨ b.bytesAvailable = 0 →
      t.delivered = t.drained ++ (b.held ++ b.buffer.take n) → Flow k d b t
  /-- The packet of a completion was not for this watcher, or not a success. -/
  | lost : pendingReads k d = 0 → completedReads k d = [] → b.bytesAvailable = 0 →
      t.drained <+: t.delivered → Flow k d b t

/-- The live watcher `a` has its own block, and the traffic goes through it. -/
structure Fed (s : State) (a : Addr) (t : Traffic) (x : PdWatcher Addr) (d : Addr)
    (b : IocpWatcherData) : Prop where
  active : x.active = true
  data : x.platformData = some d
  block : s.world.sys.blocks d = some b
  going : b.stopping = false
  length : b.buffer.length = bufferSize
  le : b.bytesAvailable ≤ bufferSize
  own : ∀ c, Names s.world c d → c = a
  flow : Flow s.world.sys d b t
  /-- In the callback of a read no other is outstanding. -/
  frame : ∀ events n, s.mode = .callback (.read a events n) → events.has .read = true →
    pendingReads s.world.sys d = 0 ∧ completedReads s.world.sys d = [] ∧
      t.delivered = t.drained ++ b.held

/-- The watcher is not there yet, or it is fed. -/
structure Following (s : State) (a : Addr) (t : Traffic) : Prop where
  listed : Listed s.world
  absent : s.world.heap a = none → t = ⟨[], []⟩ ∧ ∀ events n, s.mode ≠ .callback (.read a events n)
  live : ∀ x, s.world.heap a = some x → ∃ d b, Fed s a t x d b

section

variable {s s' : State} {a d : Addr} {t : Traffic} {x : PdWatcher Addr} {b : IocpWatcherData}
  {k k' : IocpSys}

theorem Flow.drained_isPrefix (h : Flow k d b t) : t.drained <+: t.delivered := by
  cases h with
  | waiting _ _ heq => exact ⟨_, heq.symm⟩
  | completed _ _ _ _ heq => exact ⟨_, heq.symm⟩
  | lost _ _ _ hpre => exact hpre

/-- Only the two lists of reads on the block matter. -/
theorem Flow.congr (h : Flow k d b t) (hp : pendingReads k' d = pendingReads k d)
    (hc : completedReads k' d = completedReads k d) : Flow k' d b t := by
  cases h with
  | waiting hin harr heq => exact .waiting (hp ▸ hin) (hc ▸ harr) heq
  | completed hin harr hn hor heq => exact .completed (hp ▸ hin) (hc ▸ harr) hn hor heq
  | lost hin harr hzero hpre => exact .lost (hp ▸ hin) (hc ▸ harr) hzero hpre

/-- A step that does not concern the watcher. -/
theorem Fed.keep (h : Fed s a t x d b) (hblock : s'.world.sys.blocks d = some b)
    (hown : ∀ c, Names s'.world c d → c = a)
    (hp : pendingReads s'.world.sys d = pendingReads s.world.sys d)
    (hc : completedReads s'.world.sys d = completedReads s.world.sys d)
    (hmode : ∀ events n, s'.mode = .callback (.read a events n) →
      s.mode = .callback (.read a events n)) : Fed s' a t x d b where
  active := h.active
  data := h.data
  block := hblock
  going := h.going
  length := h.length
  le := h.le
  own := hown
  flow := h.flow.congr hp hc
  frame events n hm hev := by
    rw [hp, hc]
    exact h.frame events n (hmode events n hm) hev

theorem reads_unread (h : k.outstanding d = 0) :
    pendingReads k d = 0 ∧ completedReads k d = [] := by
  rw [IocpSys.outstanding, Port.count_eq] at h
  refine ⟨?_, ?_⟩
  · rw [pendingReads]
    omega
  · rw [completedReads, Port.arrived, List.filter_eq_nil_iff]
    rw [← List.countP_eq_zero, List.countP_append]
    omega

/-- A read on another block does not matter. -/
theorem reads_issue {key e : Addr} {n : ℕ} (hp : k'.port = k.port.issue (.io key (.data e) n)) :
    pendingReads k' d = pendingReads k d + (if e = d then 1 else 0) ∧
      completedReads k' d = completedReads k d := by
  refine ⟨?_, ?_⟩
  · rw [pendingReads, pendingReads, hp, Port.issue, List.countP_append, List.countP_singleton]
    simp [Packet.reads]
  · rw [completedReads, completedReads, hp, Port.arrived_issue]

theorem reads_of_port (hp : k'.port = k.port) :
    pendingReads k' d = pendingReads k d ∧ completedReads k' d = completedReads k d := by
  rw [pendingReads, completedReads, hp]
  exact ⟨rfl, rfl⟩

/-- A new watcher, on a block that nothing refers to. -/
theorem Begins.fed {s s' : State} (hb : Begins s.world s'.world a x d)
    (hunread : s.world.sys.outstanding d = 0) (hown : ∀ c, Names s'.world c d → c = a)
    (hmode : ∀ events n, s'.mode ≠ .callback (.read a events n)) :
    ∃ b, Fed s' a ⟨[], []⟩ x d b := by
  obtain ⟨hin, harr⟩ := reads_unread hunread
  have hnew : ∀ b, s'.world.sys.blocks d = some b → b.stopping = false → b.bytesAvailable = 0 →
      b.buffer = List.replicate bufferSize 0 → pendingReads s'.world.sys d ≤ 1 →
      completedReads s'.world.sys d = [] → ∃ b, Fed s' a ⟨[], []⟩ x d b := by
    intro b hblock hgo hzero hbuf hin harr
    refine ⟨b, hb.active, hb.data, hblock, hgo, ?_, ?_, hown, .waiting hin harr ?_,
      fun events n hm => absurd hm (hmode events n)⟩
    · rw [hbuf, List.length_replicate]
    · rw [hzero]
      exact Nat.zero_le _
    · rw [IocpWatcherData.held, hzero]
      rfl
  rcases hb.block with ⟨-, hblock, hport⟩ | ⟨-, hblock, hport⟩
  · obtain ⟨hp, hc⟩ := reads_of_port (d := d) hport
    exact hnew _ hblock rfl rfl rfl (by omega) (hc.trans harr)
  · obtain ⟨hp, hc⟩ := reads_issue (d := d) hport
    rw [if_pos rfl] at hp
    exact hnew _ hblock rfl rfl rfl (by omega) (hc.trans harr)

/-- A call that leaves a live watcher alone. -/
theorem Fed.exec {c : Call IocpEnv} (h : Fed s a t x d b) (hx : s.world.heap a = some x)
    (halone : leavesAlone a c = true) :
    (s.world.exec iocpOps c).1.heap a = some x ∧
      Fed { s with world := (s.world.exec iocpOps c).1 } a t x d b := by
  obtain ⟨a₀, honly, hat⟩ := callAt_exec s.world c
  generalize (s.world.exec iocpOps c).1 = w at honly hat ⊢
  have hnot : ∀ e, Names s.world e d → e = a := h.own
  -- the call is about another watcher, or does nothing to this one
  have hkept : a₀ ≠ a ∨ w.heap a = s.world.heap a ∧ w.sys.blocks d = s.world.sys.blocks d ∧
      w.sys.port = s.world.sys.port := by
    by_cases ha : a₀ = a
    · subst ha
      refine Or.inr ?_
      have hactive : ∀ y, s.world.heap a₀ = some y → y.active = false → False := by
        intro y hy hact
        obtain rfl := Option.some.inj (hx.symm.trans hy)
        exact nomatch h.active.symm.trans hact
      have hcall : ∀ c', c = c' → leavesAlone a₀ c' = false → False := by
        rintro c' rfl hno
        exact nomatch hno.symm.trans halone
      cases hat with
      | kept hheap hblocks hport => exact ⟨hheap, hblocks d ⟨x, hx, h.data⟩, hport⟩
      | destroyed hc => exact (hcall _ hc (by simp [leavesAlone])).elim
      | unlisted _ _ hnone => exact nomatch hnone.symm.trans hx
      | created _ hnone => exact nomatch hnone.symm.trans hx
      | started _ _ hy hact => exact (hactive _ hy hact).elim
      | unstarted _ hy hact => exact (hactive _ hy hact).elim
      | stoppedDangling hc => exact (hcall _ hc (by simp [leavesAlone])).elim
      | deferred hc => exact (hcall _ hc (by simp [leavesAlone])).elim
      | freed hc => exact (hcall _ hc (by simp [leavesAlone])).elim
      | updated hc => exact (hcall _ hc (by simp [leavesAlone])).elim
    · exact Or.inl ha
  have hheap : w.heap a = some x :=
    hkept.elim (fun ha => (honly.heap a ha.symm).trans hx) fun heq => heq.1.trans hx
  have hblock : w.sys.blocks d = some b :=
    hkept.elim (fun ha => honly.blocks d b h.block fun hn => ha (hnot a₀ hn))
      fun heq => heq.2.1.trans h.block
  have hown : ∀ e, Names w e d → e = a := by
    intro e hn
    by_cases he : e = a₀
    · subst he
      rcases hat.names hn with hn | ⟨-, hnone⟩
      · exact hnot e hn
      · exact nomatch hnone.symm.trans h.block
    · refine hnot e ?_
      exact (names_congr (honly.heap e he)).1 hn
  have hport : pendingReads w.sys d = pendingReads s.world.sys d ∧
      completedReads w.sys d = completedReads s.world.sys d := by
    rcases hkept with ha | ⟨-, -, hport⟩
    · rcases hat.port_cases with hport | ⟨key, e, hor, hport⟩
      · exact reads_of_port hport
      · have hne : e ≠ d := by
          rintro rfl
          rcases hor with hn | ⟨-, hnone⟩
          · exact ha (hnot a₀ hn)
          · exact nomatch hnone.symm.trans h.block
        have hissue := reads_issue (d := d) hport
        rwa [if_neg hne, Nat.add_zero] at hissue
    · exact reads_of_port hport
  exact ⟨hheap, h.keep hblock hown hport.1 hport.2 fun _ _ hm => hm⟩

/-- A call that leaves the watcher alone. -/
theorem Following.exec {c : Call IocpEnv} (h : Following s a t) (halone : leavesAlone a c = true)
    (hnew : c.callocs = some a → freshData s.world c = true ∧
      unread s.world.sys (dataAllocFor c) = true) :
    Following { s with world := (s.world.exec iocpOps c).1 } a t := by
  refine ⟨h.listed.exec c, fun hnone => ?_, fun x hx => ?_⟩
  · refine h.absent ?_
    cases hold : s.world.heap a with
    | none => rfl
    | some y =>
        obtain ⟨d, b, hf⟩ := h.live y hold
        exact nomatch hnone.symm.trans (hf.exec hold halone).1
  · cases hold : s.world.heap a with
    | some y =>
        obtain ⟨d, b, hf⟩ := h.live y hold
        obtain ⟨hy, hf'⟩ := hf.exec hold halone
        obtain rfl := Option.some.inj (hy.symm.trans hx)
        exact ⟨d, b, hf'⟩
    | none =>
        obtain ⟨rfl, hmode⟩ := h.absent hold
        obtain ⟨a₀, honly, hat⟩ := callAt_exec s.world c
        obtain rfl : a₀ = a := by
          by_contra ha
          exact nomatch (hold.symm.trans (honly.heap a (Ne.symm ha)).symm).trans hx
        cases hat with
        | kept hheap => exact nomatch (hheap.trans hold).symm.trans hx
        | destroyed _ hgone => exact nomatch hgone.symm.trans hx
        | unlisted _ _ _ hgone => exact nomatch hgone.symm.trans hx
        | started _ _ hy => exact nomatch hold.symm.trans hy
        | unstarted _ hy => exact nomatch hold.symm.trans hy
        | stoppedDangling _ hy => exact nomatch hold.symm.trans hy
        | deferred _ hy => exact nomatch hold.symm.trans hy
        | freed _ hy => exact nomatch hold.symm.trans hy
        | updated _ hy => exact nomatch hold.symm.trans hy
        | @created z d halloc _ hb hcallocs =>
            obtain ⟨hfresh, hunread⟩ := hnew hcallocs
            obtain rfl := Option.some.inj (hb.live.symm.trans hx)
            have h₀ : s.world.sys.outstanding d = 0 := by simpa [unread, halloc] using hunread
            refine ⟨d, hb.fed h₀ (fun e hn => ?_) hmode⟩
            by_contra he
            rw [names_congr (honly.heap e he)] at hn
            exact not_names_of_fresh h.listed hfresh halloc hn

/-- The reads of the watcher are left alone, and no callback of it begins. -/
theorem Following.keep (h : Following s a t) (hl : Listed s'.world)
    (hheap : s'.world.heap = s.world.heap) (hblocks : s'.world.sys.blocks = s.world.sys.blocks)
    (hp : ∀ d, pendingReads s'.world.sys d = pendingReads s.world.sys d)
    (hc : ∀ d, completedReads s'.world.sys d = completedReads s.world.sys d)
    (hmode : ∀ events n, s'.mode = .callback (.read a events n) →
      s.mode = .callback (.read a events n)) : Following s' a t := by
  refine ⟨hl, fun hnone => ?_, fun x hx => ?_⟩
  · obtain ⟨ht, hno⟩ := h.absent (by rwa [← hheap])
    exact ⟨ht, fun events n hm => hno events n (hmode events n hm)⟩
  · obtain ⟨d, b, hf⟩ := h.live x (by rwa [← hheap])
    refine ⟨d, b, hf.keep ((congrFun hblocks d).trans hf.block) (fun e hn => hf.own e ?_) (hp d)
      (hc d) hmode⟩
    exact (names_congr (congrFun hheap e)).1 hn

/-- What is drained goes from what is held to what has been returned. -/
theorem Flow.drain {len : ℕ} (h : Flow k d b t) (hle : b.bytesAvailable ≤ b.buffer.length) :
    Flow k d (drained len b)
      { t with drained := t.drained ++ b.buffer.take (min b.bytesAvailable len) } := by
  have hempty : b.bytesAvailable = 0 → Flow k d (drained len b)
      { t with drained := t.drained ++ b.buffer.take (min b.bytesAvailable len) } := by
    intro hzero
    rwa [drained_of_empty hzero, hzero, Nat.zero_min, List.take_zero, List.append_nil]
  cases h with
  | waiting hin harr heq =>
      refine .waiting hin harr ?_
      rw [List.append_assoc, held_drained hle]
      exact heq
  | completed hin harr hn hor heq =>
      rcases hor with rfl | hzero
      · refine .completed hin harr hn (Or.inl rfl) ?_
        rw [List.take_zero, List.append_nil, List.append_assoc, held_drained hle]
        rwa [List.take_zero, List.append_nil] at heq
      · exact hempty hzero
  | lost _ _ hzero => exact hempty hzero

theorem Following.drainRead {len : ℕ} {e : Addr} {y : PdWatcher Addr} (h : Following s a t)
    (hy : s.world.heap e = some y) :
    Following (s.setSys (iocpWatcherDrainRead s.world.sys y len).1) a
      (noteTraffic a s (.drainRead e len) t) := by
  refine ⟨h.listed.of_same ⟨rfl, fun _ => rfl⟩, fun hnone => ?_, fun x hx => ?_⟩
  · have hold : s.world.heap a = none := hnone
    obtain ⟨ht, hno⟩ := h.absent hold
    refine ⟨?_, hno⟩
    rw [noteTraffic]
    simpa [hold] using ht
  · have hx' : s.world.heap a = some x := hx
    obtain ⟨d, b, hf⟩ := h.live x hx'
    obtain ⟨hp, hc⟩ : pendingReads (iocpWatcherDrainRead s.world.sys y len).1 d =
          pendingReads s.world.sys d ∧ completedReads (iocpWatcherDrainRead s.world.sys y len).1 d =
          completedReads s.world.sys d := reads_of_port drainRead_port
    have hblock := drainRead_blocks s.world.sys y len d
    rw [hf.block, Option.map_some] at hblock
    have hle : b.bytesAvailable ≤ b.buffer.length := hf.length ▸ hf.le
    by_cases he : e = a
    · subst he
      obtain rfl := Option.some.inj (hy.symm.trans hx')
      rw [if_pos hf.data] at hblock
      have hnote : noteTraffic e s (.drainRead e len) t =
          { t with drained := t.drained ++ b.buffer.take (min b.bytesAvailable len) } := by
        simp [noteTraffic, hy, drainRead_bytes hf.data hf.block]
      rw [hnote]
      refine ⟨d, _, hf.active, hf.data, hblock, hf.going, (length_drained hle).trans hf.length, ?_,
        hf.own, (hf.flow.drain hle).congr hp hc, fun events n hm hev => ?_⟩
      · exact Nat.le_trans (Nat.sub_le ..) hf.le
      · obtain ⟨hin, harr, heq⟩ := hf.frame events n hm hev
        refine ⟨hp.trans hin, hc.trans harr, ?_⟩
        rw [List.append_assoc, held_drained hle]
        exact heq
    · have hne : y.platformData ≠ some d := fun hd => he (hf.own e ⟨y, hy, hd⟩)
      rw [if_neg hne] at hblock
      have hnote : noteTraffic a s (.drainRead e len) t = t := by
        simp [noteTraffic, hx', he]
      rw [hnote]
      exact ⟨d, b, hf.keep hblock hf.own hp hc fun _ _ hm => hm⟩

/-- What a completion does to the reads on a block. -/
theorem reads_complete {key : Addr} {o : Overlapped} {n : ℕ} (status : NtStatus)
    (data : List UInt8) (hp : Packet.io key o n ∈ k.port.inflight) (d : Addr) :
    pendingReads k d = pendingReads (k.complete (.io key o n) key o status data) d +
        (if o = .data d then 1 else 0) ∧
      completedReads (k.complete (.io key o n) key o status data) d = completedReads k d ++
        if o = .data d ∧ key ≠ NULL then [.io key o data.length] else [] := by
  have hreads : ∀ m, Packet.reads d (.io key o m) = decide (o = .data d) := by
    intro m
    cases o with
    | client => rfl
    | data e => simp [Packet.reads, beq_eq_decide]
  refine ⟨?_, ?_⟩
  · rw [pendingReads, pendingReads, complete_port, Port.complete,
      (List.perm_cons_erase hp).countP_eq, List.countP_cons, hreads]
    simp
  · rw [completedReads, completedReads, complete_port, Port.arrived_complete, List.filter_append]
    by_cases hkey : key = NULL
    · simp [hkey]
    · rw [if_neg hkey, Option.toList_some, List.filter_singleton, hreads]
      simp [hkey]

/-- A read completes on a drained buffer, or with no bytes. -/
theorem Flow.complete {key : Addr} {n : ℕ} {status : NtStatus} {data : List UInt8}
    (h : Flow k d b t) (hp : Packet.io key (.data d) n ∈ k.port.inflight)
    (hlen : data.length ≤ bufferSize) (hzero : data = [] ∨ b.bytesAvailable = 0) :
    Flow (k.complete (.io key (.data d) n) key (.data d) status data) d
      { b with internal := status, buffer := data ++ b.buffer.drop data.length }
      { t with delivered := t.delivered ++ data } := by
  obtain ⟨hin, harr⟩ := reads_complete status data hp d
  rw [if_pos rfl] at hin
  cases h with
  | completed hnone => omega
  | lost hnone => omega
  | waiting hle hempty heq =>
      rw [hempty, List.nil_append] at harr
      have hin' :
          pendingReads (k.complete (.io key (.data d) n) key (.data d) status data) d = 0 := by
        omega
      have hheld : IocpWatcherData.held
          { b with internal := status, buffer := data ++ b.buffer.drop data.length } = b.held := by
        unfold IocpWatcherData.held
        rcases hzero with rfl | hzero
        · rfl
        · simp [hzero]
      -- the bytes come after what is held
      have hbytes : t.delivered ++ data = t.drained ++ (b.held ++
          (data ++ b.buffer.drop data.length).take data.length) := by
        rw [heq, List.take_left, List.append_assoc]
      by_cases hkey : key = NULL
      · rw [if_neg fun hk => hk.2 hkey] at harr
        rcases hzero with rfl | hzero
        · refine .waiting (by omega) harr ?_
          rw [hheld, List.append_nil]
          exact heq
        · exact .lost hin' harr hzero ⟨_, hbytes.symm⟩
      · rw [if_pos ⟨rfl, hkey⟩] at harr
        refine .completed hin' harr hlen (hzero.imp_left fun h => by rw [h, List.length_nil]) ?_
        rw [hheld]
        exact hbytes

theorem Following.complete {key : Addr} {o : Overlapped} {n : ℕ} {status : NtStatus}
    {data : List UInt8} (h : Following s a t) (hp : Packet.io key o n ∈ s.world.sys.port.inflight)
    (hlen : data.length ≤ bufferSize)
    (hok : Step.drains a s (.complete (.io key o n) status data) = true) :
    Following (s.setSys (s.world.sys.complete (.io key o n) key o status data)) a
      (noteTraffic a s (.complete (.io key o n) status data) t) := by
  refine ⟨h.listed.of_same ⟨rfl, fun _ => rfl⟩, fun hnone => ?_, fun x hx => ?_⟩
  · have hold : s.world.heap a = none := hnone
    obtain ⟨ht, hno⟩ := h.absent hold
    refine ⟨?_, hno⟩
    cases o with
    | client => exact ht
    | data e => simpa [noteTraffic, hold] using ht
  · have hx' : s.world.heap a = some x := hx
    obtain ⟨d, b, hf⟩ := h.live x hx'
    have hblock := complete_blocks s.world.sys (.io key o n) key o status data d
    rw [hf.block, Option.map_some] at hblock
    by_cases ho : o = .data d
    · subst ho
      rw [if_pos rfl] at hblock
      have hzero : data = [] ∨ b.bytesAvailable = 0 := by
        simpa [Step.drains, blockOf_eq hx' hf.data hf.block, Packet.reads] using hok
      have hnote : noteTraffic a s (.complete (.io key (.data d) n) status data) t =
          { t with delivered := t.delivered ++ data } := by
        simp [noteTraffic, hx', hf.data]
      rw [hnote]
      refine ⟨d, _, hf.active, hf.data, hblock, hf.going, ?_, hf.le, hf.own,
        hf.flow.complete hp hlen hzero, fun events m hm hev => ?_⟩
      · rw [List.length_append, List.length_drop, hf.length]
        omega
      · have hin := (reads_complete status data hp d).1
        have h₀ := (hf.frame events m hm hev).1
        rw [if_pos rfl] at hin
        omega
    · rw [if_neg ho] at hblock
      obtain ⟨hin, harr⟩ := reads_complete status data hp d
      rw [if_neg ho, Nat.add_zero] at hin
      rw [if_neg fun hand => ho hand.1, List.append_nil] at harr
      have hnote : noteTraffic a s (.complete (.io key o n) status data) t = t := by
        cases o with
        | client => rfl
        | data e =>
            have hne : d ≠ e := fun he => ho (by rw [he])
            simp [noteTraffic, hx', hf.data, hne]
      rw [hnote]
      exact ⟨d, b, hf.keep hblock hf.own hin.symm harr fun _ _ hm => hm⟩

theorem reads_next {p : Packet} {port : Port Packet} (hp : k.port.next = some (p, port))
    (hport : k'.port = port) (d : Addr) : pendingReads k' d = pendingReads k d ∧
      completedReads k d = if p.reads d then p :: completedReads k' d else completedReads k' d := by
  refine ⟨?_, ?_⟩
  · rw [pendingReads, hport, Port.inflight_of_next hp, pendingReads]
  · rw [completedReads, Port.arrived_of_next hp, List.filter_cons, completedReads, hport]

/-- A packet of a read is dropped. -/
theorem Flow.drop {p : Packet} (h : Flow k d b t) (hp : pendingReads k' d = pendingReads k d)
    (hc : completedReads k d = p :: completedReads k' d) : Flow k' d b t := by
  cases h with
  | waiting _ hempty => exact nomatch hempty.symm.trans hc
  | lost _ hempty => exact nomatch hempty.symm.trans hc
  | completed hin harr _ hor heq =>
      have hempty : completedReads k' d = [] := (List.cons.inj (harr.symm.trans hc)).2.symm
      rcases hor with rfl | hzero
      · refine .waiting (by omega) hempty ?_
        rwa [List.take_zero, List.append_nil] at heq
      · exact .lost (by omega) hempty hzero ⟨_, heq.symm⟩

/-- Only what is held and what is in the buffer matter. -/
theorem Flow.of_buffer {b' : IocpWatcherData} (h : Flow k d b t) (hbuf : b'.buffer = b.buffer)
    (havail : b'.bytesAvailable = b.bytesAvailable) : Flow k d b' t := by
  have hheld : b'.held = b.held := by rw [IocpWatcherData.held, hbuf, havail, IocpWatcherData.held]
  cases h with
  | waiting hin harr heq => exact .waiting hin harr (hheld ▸ heq)
  | completed hin harr hn hor heq =>
      refine .completed hin harr hn (havail ▸ hor) ?_
      rwa [hheld, hbuf]
  | lost hin harr hzero hpre => exact .lost hin harr (havail ▸ hzero) hpre

theorem pos_of_readEvents {n : ℕ} (h : (readEvents b n).has .read = true) : 0 < n := by
  unfold readEvents at h
  split_ifs at h with hpend hstatus hn
  · exact hn
  · exact nomatch h
  · exact nomatch h
  · exact nomatch h

/-- The loop turns to the next packet. -/
theorem Fed.takeUp {p : Packet} {port : Port Packet} (h : Fed s a t x d b)
    (hx : s.world.heap a = some x) (hp : s.world.sys.port.next = some (p, port)) :
    let r := takeUp (s.world.setSys (s.world.sys.setPort port)) p
    r.1.heap a = some x ∧ ∃ b', Fed ⟨r.1, r.2⟩ a t x d b' := by
  obtain ⟨htaken, hport⟩ := takenUp_takeUp (s.world.setSys (s.world.sys.setPort port)) p
  generalize Iocp.takeUp (s.world.setSys (s.world.sys.setPort port)) p = r at htaken hport ⊢
  obtain ⟨hin, harr⟩ := reads_next hp hport d
  have hflow : Flow r.1.sys d b t := by
    by_cases hread : p.reads d = true
    · rw [if_pos hread] at harr
      exact h.flow.drop hin harr
    · rw [if_neg hread] at harr
      exact h.flow.congr hin harr.symm
  have hnames : ∀ {e y}, s.world.heap e = some y → y.platformData = some d → e = a :=
    fun he hd => h.own _ ⟨_, he, hd⟩
  -- the block is not written, and no callback of the watcher begins
  have hsame : r.1.heap a = some x → r.1.sys.blocks d = some b →
      (∀ e, Names r.1 e d → Names s.world e d) →
      (∀ events n, r.2 ≠ .callback (.read a events n)) →
      r.1.heap a = some x ∧ ∃ b', Fed ⟨r.1, r.2⟩ a t x d b' :=
    fun hheap hblock hn hmode => ⟨hheap, b, h.active, h.data, hblock, h.going, h.length, h.le,
      fun e he => h.own e (hn e he), hflow, fun events n hm => absurd hm (hmode events n)⟩
  have hown : r.1.heap = s.world.heap → ∀ e, Names r.1 e d → Names s.world e d :=
    fun hheap e hn => (names_congr (congrFun hheap e)).1 hn
  cases htaken with
  | ignored hheap hblocks _ hmode =>
      exact hsame ((congrFun hheap a).trans hx) ((congrFun hblocks d).trans h.block) (hown hheap)
        (hmode a)
  | @released a₀ d₀ o n y b₀ _ _ hy _ hyd hb₀ hstop hheap hblocks hmode =>
      have hd : d ≠ d₀ := by
        rintro rfl
        obtain rfl := Option.some.inj (h.block.symm.trans hb₀)
        exact nomatch h.going.symm.trans hstop
      have ha : a ≠ a₀ := by
        rintro rfl
        obtain rfl := Option.some.inj (hx.symm.trans hy)
        exact hd (Option.some.inj (h.data.symm.trans hyd))
      refine hsame ?_ ?_ (fun e hn => ?_) fun events n hm => nomatch hmode.symm.trans hm
      · rw [hheap, Function.update_of_ne ha]
        exact hx
      · rw [hblocks, Function.update_of_ne hd]
        exact h.block
      · obtain ⟨z, hz, hzd⟩ := hn
        rw [hheap] at hz
        by_cases he : e = a₀
        · rw [he, Function.update_self] at hz
          obtain rfl := Option.some.inj hz
          exact nomatch hzd
        · rw [Function.update_of_ne he] at hz
          exact ⟨z, hz, hzd⟩
  | @cancelled a₀ d₀ n y b₀ _ _ hy _ hyd hb₀ _ _ hheap hblocks hmode =>
      have hno : ∀ events n, r.2 ≠ .callback (.read a events n) :=
        fun events n hm => nomatch hmode.symm.trans hm
      by_cases hd : d = d₀
      · subst hd
        obtain rfl := Option.some.inj (h.block.symm.trans hb₀)
        refine ⟨(congrFun hheap a).trans hx, _, h.active, h.data,
          (congrFun hblocks _).trans (Function.update_self ..), h.going, h.length, h.le,
          fun e hn => h.own e (hown hheap e hn), hflow.of_buffer rfl rfl,
          fun events n hm => absurd hm (hno events n)⟩
      · exact hsame ((congrFun hheap a).trans hx)
          ((congrFun hblocks d).trans ((Function.update_of_ne hd ..).trans h.block)) (hown hheap)
          hno
  | @completed a₀ d₀ n y b₀ heq _ hy _ hyd hb₀ _ _ hheap hblocks hmode =>
      by_cases hd : d = d₀
      · subst hd
        obtain rfl := Option.some.inj (h.block.symm.trans hb₀)
        obtain rfl : a₀ = a := hnames hy hyd
        have hread : p.reads d = true := by simp [heq, Packet.reads]
        rw [if_pos hread] at harr
        by_cases hev : (readEvents b n).has .read = true
        · rw [if_pos hev] at hblocks
          -- the bytes that the packet brings are all there is
          cases h.flow with
          | waiting _ hempty => exact absurd (harr.symm.trans hempty) (List.cons_ne_nil _ _)
          | lost _ hempty => exact absurd (harr.symm.trans hempty) (List.cons_ne_nil _ _)
          | completed hzero hone hle hor hbytes =>
              obtain ⟨hpacket, hempty⟩ := List.cons.inj (hone.symm.trans harr)
              rw [heq] at hpacket
              cases hpacket
              have hnone : pendingReads r.1.sys d = 0 := hin.trans hzero
              have hpos := pos_of_readEvents hev
              have havail : b.bytesAvailable = 0 := hor.resolve_left (by omega)
              have hheld : t.delivered = t.drained ++ b.buffer.take n := by
                rwa [IocpWatcherData.held, havail, List.take_zero, List.nil_append] at hbytes
              refine ⟨(congrFun hheap a₀).trans hx, _, h.active, h.data,
                (congrFun hblocks _).trans (Function.update_self ..), h.going, h.length, hle,
                fun e hn => h.own e (hown hheap e hn),
                .waiting (Nat.le_trans (Nat.le_of_eq hnone) (Nat.zero_le 1)) hempty.symm hheld,
                fun events m hm _ => ⟨hnone, hempty.symm, hheld⟩⟩
        · rw [if_neg hev] at hblocks
          refine ⟨(congrFun hheap a₀).trans hx, _, h.active, h.data,
            (congrFun hblocks _).trans (Function.update_self ..), h.going, h.length, h.le,
            fun e hn => h.own e (hown hheap e hn), hflow.of_buffer rfl rfl,
            fun events m hm hevents => ?_⟩
          have hmode' := hmode.symm.trans hm
          cases hmode'
          exact absurd hevents hev
      · refine hsame ((congrFun hheap a).trans hx)
          ((congrFun hblocks d).trans ((Function.update_of_ne hd ..).trans h.block)) (hown hheap)
          fun events m hm => hd ?_
        have hmode' := hmode.symm.trans hm
        cases hmode'
        obtain rfl := Option.some.inj (hx.symm.trans hy)
        exact Option.some.inj (h.data.symm.trans hyd)

theorem Following.takeUp {p : Packet} {port : Port Packet} (h : Following s a t)
    (hp : s.world.sys.port.next = some (p, port)) :
    Following ⟨(takeUp (s.world.setSys (s.world.sys.setPort port)) p).1,
      (takeUp (s.world.setSys (s.world.sys.setPort port)) p).2⟩ a t := by
  have hsys : Listed (s.world.setSys (s.world.sys.setPort port)) :=
    h.listed.of_same ⟨rfl, fun _ => rfl⟩
  have hlive := (takesUp_takeUp (s.world.setSys (s.world.sys.setPort port)) p).live_eq a
  refine ⟨hsys.of_same ⟨takeUp_loop _ _, (takesUp_takeUp _ _).live_eq⟩, fun hnone => ?_,
    fun x hx => ?_⟩
  · have hold : s.world.heap a = none := by
      rw [← Option.not_isSome_iff_eq_none] at hnone ⊢
      rwa [hlive] at hnone
    refine ⟨(h.absent hold).1, fun events n hm => ?_⟩
    obtain ⟨htaken, -⟩ := takenUp_takeUp (s.world.setSys (s.world.sys.setPort port)) p
    dsimp only at hm
    cases htaken with
    | ignored _ _ _ hmode => exact hmode a events n hm
    | released _ _ _ _ _ _ _ _ _ hmode => exact nomatch hmode.symm.trans hm
    | cancelled _ _ _ _ _ _ _ _ _ _ hmode => exact nomatch hmode.symm.trans hm
    | completed _ _ hy _ _ _ _ _ _ _ hmode =>
        cases hmode.symm.trans hm
        exact nomatch hold.symm.trans hy
  · obtain ⟨y, hy⟩ := Option.isSome_iff_exists.1 (hlive ▸ hx ▸ rfl : (s.world.heap a).isSome = true)
    obtain ⟨d, b, hf⟩ := h.live y hy
    obtain ⟨hy', b', hf'⟩ := hf.takeUp hy hp
    obtain rfl := Option.some.inj (hy'.symm.trans hx)
    exact ⟨d, b', hf'⟩

/-- The callback returns, and the next read is issued where all that was delivered has been
drained or is held. -/
theorem Following.rearm {f : Frame} {refused : Option WinError} (h : Following s a t)
    (hmode : s.mode = .callback f) :
    Following ⟨(rearm s.world refused f).1, (rearm s.world refused f).2⟩ a t := by
  obtain ⟨hrearmed, hheap⟩ := rearmed_rearm s.world refused f
  have hafter := (rearms_rearm s.world refused f).mode_eq
  have hlisted : Listed (Iocp.rearm s.world refused f).1 :=
    h.listed.of_same ⟨rearm_loop _ _ _, fun a => by rw [hheap]⟩
  generalize Iocp.rearm s.world refused f = r at hrearmed hheap hafter hlisted ⊢
  have hno : ∀ events n, r.2 ≠ .callback (.read a events n) := by
    intro events n hm
    rcases hafter with heq | ⟨_, _, _, -, -, heq⟩ <;> exact nomatch heq.symm.trans hm
  refine ⟨hlisted, fun hnone => ?_, fun x hx => ?_⟩
  · exact ⟨(h.absent (hheap ▸ hnone)).1, hno⟩
  · have hx' : s.world.heap a = some x := (congrFun hheap a).symm.trans hx
    obtain ⟨d, b, hf⟩ := h.live x hx'
    have hown : ∀ e, Names r.1 e d → e = a :=
      fun e hn => hf.own e ((names_congr (congrFun hheap e)).1 hn)
    have hkeep : r.1.sys.blocks d = some b → pendingReads r.1.sys d = pendingReads s.world.sys d →
        completedReads r.1.sys d = completedReads s.world.sys d →
        ∃ d b, Fed ⟨r.1, r.2⟩ a t x d b :=
      fun hblock hp hc => ⟨d, b, hf.keep hblock hown hp hc fun events n hm =>
        absurd hm (hno events n)⟩
    -- the block of another watcher
    have hother : ∀ {d₀ q}, d ≠ d₀ → r.1.sys.blocks = Function.update s.world.sys.blocks d₀ q →
        r.1.sys.blocks d = some b := by
      intro d₀ q hd hblocks
      rw [hblocks, Function.update_of_ne hd]
      exact hf.block
    cases hrearmed with
    | nothing hblocks hport =>
        obtain ⟨hp, hc⟩ := reads_of_port (d := d) hport
        exact hkeep ((congrFun hblocks d).trans hf.block) hp hc
    | @issued a₀ d₀ events n y b₀ heq hev _ hy hyd hb₀ _ _ hblocks hport =>
        obtain ⟨hp, hc⟩ := reads_issue (d := d) hport
        by_cases hd : d = d₀
        · subst hd
          obtain rfl : a₀ = a := hf.own a₀ ⟨y, hy, hyd⟩
          obtain rfl := Option.some.inj (hf.block.symm.trans hb₀)
          obtain ⟨hzero, hempty, hheld⟩ := hf.frame events n (heq ▸ hmode) hev
          rw [if_pos rfl, hzero] at hp
          exact ⟨d, _, hf.active, hf.data, (congrFun hblocks _).trans (Function.update_self ..),
            hf.going, hf.length, hf.le, hown,
            .waiting (Nat.le_of_eq hp) (hc.trans hempty) hheld,
            fun events n hm => absurd hm (hno events n)⟩
        · rw [if_neg (Ne.symm hd), Nat.add_zero] at hp
          exact hkeep (hother hd hblocks) hp hc
    | @unissued a₀ d₀ events n y b₀ _ _ _ hy hyd hb₀ _ _ hblocks hport =>
        obtain ⟨hp, hc⟩ := reads_of_port (d := d) hport
        by_cases hd : d = d₀
        · subst hd
          obtain rfl := Option.some.inj (hf.block.symm.trans hb₀)
          exact ⟨d, _, hf.active, hf.data, (congrFun hblocks _).trans (Function.update_self ..),
            hf.going, hf.length, hf.le, hown, (hf.flow.congr hp hc).of_buffer rfl rfl,
            fun events n hm => absurd hm (hno events n)⟩
        · exact hkeep (hother hd hblocks) hp hc

theorem following_init (hs : Init s) : Following s a ⟨[], []⟩ := by
  obtain ⟨hmode, -, hheap, -⟩ := id hs
  refine ⟨(apart_init hs).listed, fun _ => ⟨rfl, fun events n hm => ?_⟩, fun x hx => ?_⟩
  · exact nomatch hmode.symm.trans hm
  · exact nomatch (hheap a).symm.trans hx

/-- What one step preserves. -/
theorem following_step {l : Step} (h : Following s a t) (hok : l.drains a s = true)
    (hstep : step s l = some s') : Following s' a (noteTraffic a s l t) := by
  have hlisted := listed_step h.listed hstep
  cases stepped_of_step hstep with
  | call =>
      simp only [Step.drains, Bool.and_eq_true, Bool.or_eq_true, bne_iff_ne] at hok
      exact h.exec hok.1 fun hc => hok.2.resolve_left fun hne => hne hc
  | drainRead hy => exact h.drainRead hy
  | openHandle => exact h.keep hlisted rfl rfl (fun _ => rfl) (fun _ => rfl) fun _ _ hm => hm
  | closeHandle => exact h.keep hlisted rfl rfl (fun _ => rfl) (fun _ => rfl) fun _ _ hm => hm
  | clientWrite =>
      refine h.keep hlisted rfl rfl (fun d => ?_) (fun _ => rfl) fun _ _ hm => hm
      show (List.countP _ (_ ++ [_])) = _
      rw [List.countP_append]
      rfl
  | complete hp => exact h.complete hp (length_le_of_complete hstep) hok
  | post hp =>
      refine h.keep hlisted rfl rfl (fun _ => rfl) (fun d => ?_) fun _ _ hm => hm
      show List.filter _ (Port.arrived (Port.post _ _)) = _
      rw [Port.arrived_post, List.filter_append, List.filter_singleton, not_reads_of_isSignal hp d,
        completedReads]
      exact List.append_nil _
  | wait =>
      refine h.keep hlisted rfl rfl (fun _ => rfl) (fun d => ?_) fun _ _ hm => nomatch hm
      show List.filter _ (Port.arrived (Port.take _ _)) = _
      rw [Port.arrived_take, completedReads]
  | waitFailed => exact h.keep hlisted rfl rfl (fun _ => rfl) (fun _ => rfl) fun _ _ hm => hm
  | done => exact h.keep hlisted rfl rfl (fun _ => rfl) (fun _ => rfl) fun _ _ hm => nomatch hm
  | next hp => exact h.takeUp hp
  | ret hmode => exact h.rearm hmode

/-- If every read completes on a drained buffer, what `pd_watcher_drain_read` has returned
is a prefix of what the kernel has delivered. -/
theorem drained_prefix (hr : (trafficRuns a).Reach (Step.Drains a) (s, t)) :
    t.drained <+: t.delivered := by
  have hf : Following s a t := by
    refine Machine.Reach.recorded_invariant (I := fun s t => Following s a t)
      (fun _ hs => following_init hs) ?_ hr
    exact fun s t l s' hi hok hnext => following_step hi hok hnext
  cases hx : s.world.heap a with
  | none =>
      obtain ⟨rfl, -⟩ := hf.absent hx
      exact List.nil_prefix
  | some x =>
      obtain ⟨d, b, hfed⟩ := hf.live x hx
      exact hfed.flow.drained_isPrefix

end

/-- A completion is drained in two calls, and the next in one. -/
def drainInParts : List Step :=
  [.openHandle 4, createReader, .complete (.io 100 (.data 200) 0) STATUS_SUCCESS [7, 8], .wait 1,
    .next, .drainRead 100 1, .drainRead 100 4096, .ret none, .next,
    .complete (.io 100 (.data 200) 0) STATUS_SUCCESS [9], .wait 1, .next, .drainRead 100 4096]

theorem drainInParts_prefix : ∃ s t,
    Machine.runGuarded (Step.Drains 100) (Machine.recordStep step (noteTraffic 100))
      (iocpLoopCreate, ⟨[], []⟩) drainInParts = some (s, t) ∧ t.drained = [7, 8, 9] ∧
    t.drained <+: t.delivered := by
  have hrun : ∃ s t,
      Machine.runGuarded (Step.Drains 100) (Machine.recordStep step (noteTraffic 100))
        (iocpLoopCreate, ⟨[], []⟩) drainInParts = some (s, t) ∧ t.drained = [7, 8, 9] :=
    ⟨_, _, rfl, rfl⟩
  obtain ⟨s, t, hrun, hbytes⟩ := hrun
  exact ⟨s, t, hrun, hbytes, drained_prefix (.runGuarded (.init ⟨init_iocpLoopCreate, rfl⟩) hrun)⟩

/-- A callback drains one of two bytes, and the next read completes. -/
def drainInPart : List Step :=
  [.openHandle 4, createReader, .complete (.io 100 (.data 200) 0) STATUS_SUCCESS [7, 8], .wait 1,
    .next, .drainRead 100 1, .ret none, .next,
    .complete (.io 100 (.data 200) 0) STATUS_SUCCESS [9], .wait 1, .next, .drainRead 100 4096]

/-- The byte that the callback has left is lost. -/
theorem not_drained_prefix :
    ¬∀ s t, (trafficRuns 100).Reachable (s, t) → t.drained <+: t.delivered := by
  intro hall
  have hrun : ∃ s t, Machine.run (Machine.recordStep step (noteTraffic 100))
      (iocpLoopCreate, ⟨[], []⟩) drainInPart = some (s, t) ∧ t = ⟨[7, 8, 9], [7, 9]⟩ :=
    ⟨_, _, rfl, rfl⟩
  obtain ⟨s, t, hrun, rfl⟩ := hrun
  exact absurd (hall s _ (Machine.Reach.run (.init ⟨init_iocpLoopCreate, rfl⟩) hrun)) (by decide)

end Iocp
end PollDancer
