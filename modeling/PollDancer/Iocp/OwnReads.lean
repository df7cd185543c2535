/-
# The reads of a watcher

What the read side of a watcher rests on is its record, its block of platform data, its
handle, and the reads that are in flight or queued (`Served`).  The calls on the watcher and
the loop's work on its completed reads look at nothing else: on two backends that agree on
these they do the same, whatever else is in the port (`SameReads`).
-/
import PollDancer.Iocp.Association

namespace PollDancer
namespace Iocp

open Library

/-- The handles on which the backend reads for the watcher. -/
def handles (s : IocpWorld) (a : Addr) : List Handle :=
  match s.heap a with
  | none => []
  | some x => [readHandle x, rearmHandle x]

/-- The watcher is registered with the block `d`, and not being torn down.  Its handle is
associated with it, if at all, and so what completes on its `OVERLAPPED` comes to it. -/
structure Served (s : IocpWorld) (a d : Addr) : Prop where
  nonnull : a ≠ NULL
  watcher : ∃ x, s.heap a = some x ∧ x.active = true ∧ x.platformData = some d
  block : ∃ b, s.sys.blocks d = some b ∧ b.stopping = false
  assoc : ∀ h ∈ handles s a, s.sys.assoc h = none ∨ s.sys.assoc h = some a
  inflight : ∀ key n, .io key (.data d) n ∈ s.sys.port.inflight → key = a ∨ key = NULL
  arrived : ∀ key n, .io key (.data d) n ∈ s.sys.port.arrived → key = a

/-- The watcher, its block, its handle and the reads in flight are as they were. -/
def Untouched (a d : Addr) (s s' : IocpWorld) : Prop :=
  s'.heap a = s.heap a ∧ s'.sys.blocks d = s.sys.blocks d ∧
    (∀ h ∈ handles s a, s'.sys.isOpen h = s.sys.isOpen h ∧ s'.sys.assoc h = s.sys.assoc h) ∧
    s'.sys.port.inflight.filter (Packet.reads d) = s.sys.port.inflight.filter (Packet.reads d)

instance (a d : Addr) (s s' : IocpWorld) : Decidable (Untouched a d s s') :=
  inferInstanceAs (Decidable (_ ∧ _ ∧ _ ∧ _))

/-- The reads on the block are the same for two backends, and the second has nothing else in
its port. -/
structure SameReads (hs : List Handle) (d : Addr) (k t : IocpSys) : Prop where
  block : t.blocks d = k.blocks d
  isOpen : ∀ h ∈ hs, t.isOpen h = k.isOpen h
  assoc : ∀ h ∈ hs, t.assoc h = k.assoc h
  port : t.port = k.port.restrict (Packet.reads d)
  fault : t.fault = false

theorem complete_isOpen (k : IocpSys) (p : Packet) (key : Addr) (o : Overlapped)
    (status : NtStatus) (data : List UInt8) :
    (k.complete p key o status data).isOpen = k.isOpen := by
  unfold IocpSys.complete
  cases o with
  | client => rfl
  | data d =>
      dsimp only
      split <;> rfl

section Backend

variable {k t k' t' : IocpSys} {a d : Addr} {h : Handle} {hs : List Handle} {b : IocpWatcherData}
  {w : PdWatcher Addr}

theorem SameReads.setBlock (hk : SameReads hs d k t) (b : IocpWatcherData) :
    SameReads hs d (k.setBlock d b) (t.setBlock d b) :=
  ⟨by simp, hk.isOpen, hk.assoc, hk.port, hk.fault⟩

theorem SameReads.setError (hk : SameReads hs d k t) (e : WinError) :
    SameReads hs d (k.setError e) (t.setError e) :=
  ⟨hk.block, hk.isOpen, hk.assoc, hk.port, hk.fault⟩

theorem touch_fault : (k.touch d).fault = k.fault := by
  unfold IocpSys.touch
  split <;> rfl

theorem SameReads.touch (hk : SameReads hs d k t) : SameReads hs d (k.touch d) (t.touch d) where
  block := by simpa using hk.block
  isOpen := by simpa using hk.isOpen
  assoc := by simpa using hk.assoc
  port := by simpa using hk.port
  fault := by simpa [touch_fault] using hk.fault

/-- The port changes in both. -/
theorem SameReads.setPort (hk : SameReads hs d k t) {p p' : Port Packet}
    (hp : p' = p.restrict (Packet.reads d)) : SameReads hs d (k.setPort p) (t.setPort p') :=
  ⟨hk.block, hk.isOpen, hk.assoc, hp, hk.fault⟩

/-- A read is refused in both, or issued in both under the same key. -/
theorem SameReads.issueRead (hk : SameReads hs d k t) (hh : h ∈ hs)
    (refused : Option WinError) :
    (∃ e, k.issueRead h d b refused = .error e ∧ t.issueRead h d b refused = .error e) ∨
    ∃ k' t', k.issueRead h d b refused = .ok k' ∧ t.issueRead h d b refused = .ok t' ∧
      SameReads hs d k' t' := by
  unfold IocpSys.issueRead
  rw [hk.isOpen h hh, hk.assoc h hh]
  split_ifs
  · exact .inl ⟨_, rfl, rfl⟩
  · cases refused with
    | some e => exact .inl ⟨e, rfl, rfl⟩
    | none =>
        refine .inr ⟨_, _, rfl, rfl, (hk.touch.setBlock _).setPort ?_⟩
        rw [hk.port, Port.restrict_issue_of_pos]
        simp [Packet.reads]

/-- `iocp_watcher_update`. -/
theorem SameReads.update (hk : SameReads hs d k t) (hpd : w.platformData = some d)
    (hb : k.blocks d = some b) (hh : readHandle w ∈ hs) (events : PdEvent) (env : IocpEnv) :
    SameReads hs d (iocpWatcherUpdate k a w events env).sys
        (iocpWatcherUpdate t a w events env).sys ∧
      (iocpWatcherUpdate t a w events env).platformData =
        (iocpWatcherUpdate k a w events env).platformData := by
  have hb' : t.blocks d = some b := hk.block.trans hb
  simp only [iocpWatcherUpdate, hpd, hb, hb']
  split_ifs
  · generalize ({ b with events, internal := STATUS_SUCCESS, pendingOperation := true } :
      IocpWatcherData) = b'
    have hset : SameReads hs d ((k.touch d).setBlock d b') ((t.touch d).setBlock d b') :=
      hk.touch.setBlock b'
    rcases hset.issueRead (b := b') hh env.refusedRead with
      ⟨e, hek, het⟩ | ⟨k', t', hek, het, hsame⟩
    · rw [hek, het]
      exact ⟨hset.setError e, rfl⟩
    · rw [hek, het]
      exact ⟨hsame, rfl⟩
  · exact ⟨hk.setBlock _, rfl⟩

/-- `iocp_watcher_drain_read`. -/
theorem SameReads.drainRead (hk : SameReads hs d k t) (hpd : w.platformData = some d)
    (hb : k.blocks d = some b) (len : ℕ) :
    SameReads hs d (iocpWatcherDrainRead k w len).1 (iocpWatcherDrainRead t w len).1 ∧
      (iocpWatcherDrainRead t w len).2 = (iocpWatcherDrainRead k w len).2 := by
  have hb' : t.blocks d = some b := hk.block.trans hb
  simp only [iocpWatcherDrainRead, hpd, hb, hb']
  split_ifs
  · exact ⟨hk, rfl⟩
  · exact ⟨hk, rfl⟩
  · exact ⟨hk.touch.setBlock _, rfl⟩
  · exact ⟨hk.setBlock _, rfl⟩

theorem SameReads.openHandle (hk : SameReads hs d k t) (h : Handle) :
    SameReads hs d (k.openHandle h) (t.openHandle h) where
  block := hk.block
  isOpen g hg := by
    simp only [IocpSys.openHandle, Function.update_apply]
    split_ifs
    · rfl
    · exact hk.isOpen g hg
  assoc := hk.assoc
  port := hk.port
  fault := hk.fault

theorem SameReads.closeHandle (hk : SameReads hs d k t) (h : Handle) :
    SameReads hs d (k.closeHandle h) (t.closeHandle h) where
  block := hk.block
  isOpen g hg := by
    simp only [IocpSys.closeHandle, Function.update_apply]
    split_ifs
    · rfl
    · exact hk.isOpen g hg
  assoc g hg := by
    simp only [IocpSys.closeHandle, Function.update_apply]
    split_ifs
    · rfl
    · exact hk.assoc g hg
  port := hk.port
  fault := hk.fault

/-- The kernel completes a read on the block. -/
theorem SameReads.complete (hk : SameReads hs d k t) (hb : k.blocks d = some b) (key : Addr)
    (n : ℕ) (status : NtStatus) (data : List UInt8) :
    SameReads hs d (k.complete (.io key (.data d) n) key (.data d) status data)
      (t.complete (.io key (.data d) n) key (.data d) status data) := by
  have hb' : t.blocks d = some b := hk.block.trans hb
  have hr : ∀ p ∈ (if key = NULL then none else some (Packet.io key (.data d) data.length)),
      p.reads d = true := by
    intro p hp
    split_ifs at hp
    · exact nomatch hp
    · obtain rfl := Option.some.inj hp
      simp [Packet.reads]
  have hset := hk.setPort (p := k.port.complete (.io key (.data d) n)
    (if key = NULL then none else some (.io key (.data d) data.length)))
    (hk.port ▸ (Port.restrict_complete_of_pos hr).symm)
  simp only [IocpSys.complete, show ∀ p, (k.setPort p).blocks d = some b from fun _ => hb,
    show ∀ p, (t.setPort p).blocks d = some b from fun _ => hb']
  exact hset.setBlock _

end Backend

section Loop

variable {s t s' t' : IocpWorld} {a d : Addr} {x : PdWatcher Addr} {b : IocpWatcherData} {n : ℕ}
  {hs : List Handle}

/-- A completed read of a watcher that is not being torn down is taken up. -/
theorem takeUp_read (ha : a ≠ NULL) (hx : s.heap a = some x) (hpd : x.platformData = some d)
    (hb : s.sys.blocks d = some b) (hgo : b.stopping = false) :
    takeUp s (.io a (.data d) n) =
      if x.callback.isNone then (s, .dispatch)
      else if isCancelled b then
        (s.setSys (s.sys.setBlock d { b with pendingOperation := false }), .dispatch)
      else
        (s.setSys (s.sys.setBlock d { b with
          bytesAvailable := if (readEvents b n).has .read then n else b.bytesAvailable
          pendingOperation := false }), .callback (.read a (readEvents b n) n)) := by
  simp only [takeUp, if_neg ha, hx, hpd, hb, hgo, Bool.false_eq_true, if_false, ne_eq,
    not_true_eq_false]

/-- The completion of an operation of the client is taken up. -/
theorem takeUp_client {o : Overlapped} (ha : a ≠ NULL) (hx : s.heap a = some x)
    (hpd : x.platformData = some d) (hb : s.sys.blocks d = some b) (hgo : b.stopping = false)
    (ho : o ≠ .data d) :
    takeUp s (.io a o n) = (s, if x.callback.isNone then .dispatch else .callback (.write a)) := by
  simp only [takeUp, if_neg ha, hx, hpd, hb, hgo, Bool.false_eq_true, if_false, if_pos ho]
  split_ifs <;> rfl

/-- The callback of a read returns. -/
theorem rearm_read (hx : s.heap a = some x) (hpd : x.platformData = some d)
    (hb : s.sys.blocks d = some b) (hgo : b.stopping = false) (refused : Option WinError)
    (events : PdEvent) :
    rearm s refused (.read a events n) =
      if events.has .read && n > 0 then
        let b := { b with internal := STATUS_SUCCESS, pendingOperation := true }
        let k := (s.sys.touch d).setBlock d b
        match k.issueRead (rearmHandle x) d b refused with
        | .error _ => (s.setSys (k.setBlock d { b with pendingOperation := false }), .dispatch)
        | .ok k => (s.setSys k, .dispatch)
      else (s, .dispatch) := by
  simp only [rearm, hx, hpd, hb]
  exact if_congr Iff.rfl (if_neg (by rw [hgo]; exact Bool.false_ne_true)) rfl

/-- Taking up a completed read leaves the watchers alone, and may end in its callback. -/
theorem takeUp_read_cases (ha : a ≠ NULL) (hx : s.heap a = some x) (hpd : x.platformData = some d)
    (hb : s.sys.blocks d = some b) (hgo : b.stopping = false) :
    (takeUp s (.io a (.data d) n)).1.heap = s.heap ∧
      ((takeUp s (.io a (.data d) n)).2 = .dispatch ∨
        (takeUp s (.io a (.data d) n)).2.inReadOf a = true) := by
  rw [takeUp_read ha hx hpd hb hgo]
  split_ifs
  · exact ⟨rfl, .inl rfl⟩
  · exact ⟨rfl, .inl rfl⟩
  · exact ⟨rfl, .inr (beq_self_eq_true a)⟩
  · exact ⟨rfl, .inr (beq_self_eq_true a)⟩

theorem SameReads.takeUp (hk : SameReads hs d s.sys t.sys) (ha : a ≠ NULL)
    (hx : s.heap a = some x) (ht : t.heap a = some x) (hpd : x.platformData = some d)
    (hb : s.sys.blocks d = some b) (hgo : b.stopping = false) :
    SameReads hs d (takeUp s (.io a (.data d) n)).1.sys (takeUp t (.io a (.data d) n)).1.sys ∧
      (takeUp t (.io a (.data d) n)).2 = (takeUp s (.io a (.data d) n)).2 := by
  rw [takeUp_read ha hx hpd hb hgo, takeUp_read ha ht hpd (hk.block.trans hb) hgo]
  split_ifs
  · exact ⟨hk, rfl⟩
  · exact ⟨hk.setBlock _, rfl⟩
  · exact ⟨hk.setBlock _, rfl⟩
  · exact ⟨hk.setBlock _, rfl⟩

theorem SameReads.rearm (hk : SameReads hs d s.sys t.sys) (hx : s.heap a = some x)
    (ht : t.heap a = some x) (hpd : x.platformData = some d) (hb : s.sys.blocks d = some b)
    (hgo : b.stopping = false) (hh : rearmHandle x ∈ hs) (refused : Option WinError)
    (events : PdEvent) :
    SameReads hs d (rearm s refused (.read a events n)).1.sys
        (rearm t refused (.read a events n)).1.sys ∧
      (rearm s refused (.read a events n)).2 = .dispatch ∧
      (rearm t refused (.read a events n)).2 = .dispatch := by
  rw [rearm_read hx hpd hb hgo, rearm_read ht hpd (hk.block.trans hb) hgo]
  split_ifs
  · generalize ({ b with internal := STATUS_SUCCESS, pendingOperation := true } :
      IocpWatcherData) = b'
    have hset : SameReads hs d ((s.sys.touch d).setBlock d b') ((t.sys.touch d).setBlock d b') :=
      hk.touch.setBlock b'
    dsimp only
    rcases hset.issueRead (b := b') hh refused with
      ⟨e, hek, het⟩ | ⟨k', t', hek, het, hsame⟩
    · rw [hek, het]
      exact ⟨hset.setBlock _, rfl, rfl⟩
    · rw [hek, het]
      exact ⟨hsame, rfl, rfl⟩
  · exact ⟨hk, rfl, rfl⟩

/-- The handles of a watcher that is there. -/
theorem handles_eq (hx : s.heap a = some x) : handles s a = [readHandle x, rearmHandle x] := by
  rw [handles, hx]

/-- What a step may do to the watcher. -/
theorem Served.keep (h : Served s a d) (hx : s'.heap a = some x) (hact : x.active = true)
    (hpd : x.platformData = some d) (hh : handles s' a = handles s a)
    (hb : s'.sys.blocks d = some b) (hgo : b.stopping = false)
    (hassoc : ∀ h ∈ handles s a, s'.sys.assoc h = s.sys.assoc h ∨ s'.sys.assoc h = none)
    (hin : ∀ key n, .io key (.data d) n ∈ s'.sys.port.inflight →
      .io key (.data d) n ∈ s.sys.port.inflight ∨ key = a ∨ key = NULL)
    (harr : ∀ key n, .io key (.data d) n ∈ s'.sys.port.arrived →
      .io key (.data d) n ∈ s.sys.port.arrived ∨ key = a) : Served s' a d where
  nonnull := h.nonnull
  watcher := ⟨x, hx, hact, hpd⟩
  block := ⟨b, hb, hgo⟩
  assoc g hg := by
    rw [hh] at hg
    rcases hassoc g hg with heq | hnone
    · rw [heq]
      exact h.assoc g hg
    · exact .inl hnone
  inflight key n hp := (hin key n hp).elim (h.inflight key n) id
  arrived key n hp := (harr key n hp).elim (h.arrived key n) id

/-- Nothing has been done to the watcher. -/
theorem Served.of_untouched (h : Served s a d) (hu : Untouched a d s s')
    (harr : ∀ key n, .io key (.data d) n ∈ s'.sys.port.arrived →
      .io key (.data d) n ∈ s.sys.port.arrived) : Served s' a d := by
  obtain ⟨hheap, hblock, hhandles, hin⟩ := hu
  obtain ⟨x, hx, hact, hpd⟩ := h.watcher
  obtain ⟨b, hb, hgo⟩ := h.block
  refine h.keep (hheap.trans hx) hact hpd (by rw [handles, hheap]; rfl) (hblock.trans hb) hgo
    (fun g hg => .inl (hhandles g hg).2) (fun key n hp => .inl ?_) fun key n hp => .inl ?_
  · have hmem : Packet.io key (.data d) n ∈ s'.sys.port.inflight.filter (Packet.reads d) :=
      List.mem_filter.2 ⟨hp, by simp [Packet.reads]⟩
    rw [hin] at hmem
    exact (List.mem_filter.1 hmem).1
  · exact harr key n hp

/-- A read that the watcher issues on one of its handles comes to it, if at all. -/
theorem Served.key (h : Served s a d) {g : Handle} (hg : g ∈ handles s a) :
    (s.sys.assoc g).getD NULL = a ∨ (s.sys.assoc g).getD NULL = NULL := by
  rcases h.assoc g hg with hnone | hsome
  · rw [hnone]
    exact .inr rfl
  · rw [hsome]
    exact .inl rfl

/-- The watcher may issue a read, and the port is left alone otherwise. -/
theorem Served.of_issue (h : Served s a d) (hx : s'.heap a = some x) (hact : x.active = true)
    (hpd : x.platformData = some d) (hh : handles s' a = handles s a)
    (hb : s'.sys.blocks d = some b) (hgo : b.stopping = false)
    (hassoc : s'.sys.assoc = s.sys.assoc)
    (hport : s'.sys.port = s.sys.port ∨ ∃ g ∈ handles s a,
      s'.sys.port = s.sys.port.issue (.io ((s.sys.assoc g).getD NULL) (.data d) 0)) :
    Served s' a d := by
  refine h.keep hx hact hpd hh hb hgo (fun g _ => .inl (congrFun hassoc g)) (fun key n hp => ?_)
    fun key n hp => .inl ?_
  · rcases hport with hport | ⟨g, hg, hport⟩
    · exact .inl (hport ▸ hp)
    · rw [hport, Port.issue, List.mem_append, List.mem_singleton] at hp
      refine hp.imp_right fun heq => ?_
      cases heq
      exact h.key hg
  · rcases hport with hport | ⟨g, -, hport⟩
    · exact hport ▸ hp
    · rw [hport, Port.arrived_issue] at hp
      exact hp

theorem handles_update (hx : s.heap a = some x) (events : PdEvent) (k : IocpSys) :
    handles ((s.setWatcher a { x with events }).setSys k) a = handles s a := by
  rw [handles_eq hx, handles, World.setSys_heap, World.setWatcher_heap_self]
  rfl

theorem Served.update (h : Served s a d) (events : PdEvent) (env : IocpEnv) :
    Served (pdWatcherUpdate iocpOps s a events env).1 a d := by
  obtain ⟨x, hx, hact, hpd⟩ := h.watcher
  obtain ⟨b, hb, hgo⟩ := h.block
  obtain ⟨hupd, -⟩ : Updated s.sys { x with events } events env
    (iocpWatcherUpdate s.sys a { x with events } events env) ∧ _ := updated_update
  have hassoc := update_assoc s.sys a { x with events } events env
  rw [update_eq hx hact]
  generalize iocpWatcherUpdate s.sys a { x with events } events env = r at hupd hassoc ⊢
  have hx' : ((s.setWatcher a { x with events }).setSys r.sys).heap a = some { x with events } :=
    World.setWatcher_heap_self ..
  have hh := handles_update hx events r.sys
  have hread : readHandle x ∈ handles s a := by simp [handles_eq hx]
  cases hupd with
  | absent hno => exact nomatch hpd.symm.trans hno
  | dangling he hno =>
      obtain rfl := Option.some.inj (hpd.symm.trans he)
      exact nomatch hb.symm.trans hno
  | noted he hb' _ hblocks hport =>
      obtain rfl := Option.some.inj (hpd.symm.trans he)
      obtain rfl := Option.some.inj (hb.symm.trans hb')
      exact h.of_issue hx' hact hpd hh ((congrFun hblocks d).trans (Function.update_self ..)) hgo
        hassoc (.inl hport)
  | issued he hb' _ _ _ hblocks hport =>
      obtain rfl := Option.some.inj (hpd.symm.trans he)
      obtain rfl := Option.some.inj (hb.symm.trans hb')
      exact h.of_issue hx' hact hpd hh ((congrFun hblocks d).trans (Function.update_self ..)) hgo
        hassoc (.inr ⟨_, hread, hport⟩)
  | unissued he hb' _ _ _ hblocks hport =>
      obtain rfl := Option.some.inj (hpd.symm.trans he)
      obtain rfl := Option.some.inj (hb.symm.trans hb')
      exact h.of_issue hx' hact hpd hh ((congrFun hblocks d).trans (Function.update_self ..)) hgo
        hassoc (.inl hport)

/-- A change of the backend that leaves the port alone. -/
theorem Served.setSys (h : Served s a d) {k : IocpSys} (hb : k.blocks d = some b)
    (hgo : b.stopping = false) (hassoc : k.assoc = s.sys.assoc) (hport : k.port = s.sys.port) :
    Served (s.setSys k) a d := by
  obtain ⟨x, hx, hact, hpd⟩ := h.watcher
  exact h.of_issue (show (s.setSys k).heap a = some x from hx) hact hpd rfl hb hgo hassoc
    (.inl hport)

theorem Served.drainRead (h : Served s a d) (hx : s.heap a = some x) (len : ℕ) :
    Served (s.setSys (iocpWatcherDrainRead s.sys x len).1) a d := by
  obtain ⟨y, hy, -, hpd⟩ := h.watcher
  obtain rfl := Option.some.inj (hx.symm.trans hy)
  obtain ⟨b, hb, hgo⟩ := h.block
  have hblock : (iocpWatcherDrainRead s.sys x len).1.blocks d = some (drained len b) := by
    rw [drainRead_blocks, hb, Option.map_some, if_pos hpd]
  exact h.setSys hblock hgo (drainRead_assoc ..) drainRead_port

theorem Served.openHandle (h : Served s a d) (g : Handle) :
    Served (s.setSys (s.sys.openHandle g)) a d := by
  obtain ⟨b, hb, hgo⟩ := h.block
  exact h.setSys hb hgo rfl rfl

theorem Served.closeHandle (h : Served s a d) (g : Handle) :
    Served (s.setSys (s.sys.closeHandle g)) a d := by
  obtain ⟨x, hx, hact, hpd⟩ := h.watcher
  obtain ⟨b, hb, hgo⟩ := h.block
  refine h.keep (show (s.setSys _).heap a = some x from hx) hact hpd rfl hb hgo (fun e _ => ?_)
    (fun _ _ => Or.inl) fun _ _ => Or.inl
  rcases eq_or_ne e g with rfl | hne
  · exact .inr (Function.update_self ..)
  · exact .inl (Function.update_of_ne hne ..)

/-- The kernel completes a read of the watcher. -/
theorem Served.complete (h : Served s a d) {key : Addr} {status : NtStatus} {data : List UInt8}
    (hp : .io key (.data d) n ∈ s.sys.port.inflight) :
    Served (s.setSys (s.sys.complete (.io key (.data d) n) key (.data d) status data)) a d := by
  obtain ⟨x, hx, hact, hpd⟩ := h.watcher
  obtain ⟨b, hb, hgo⟩ := h.block
  have hblock := complete_blocks s.sys (.io key (.data d) n) key (.data d) status data d
  rw [hb, Option.map_some, if_pos rfl] at hblock
  refine h.keep (show (s.setSys _).heap a = some x from hx) hact hpd rfl hblock hgo
    (fun g _ => .inl ?_) (fun c m hm => .inl ?_) fun c m hm => ?_
  · rw [World.setSys_sys, IocpSys.complete_assoc]
  · rw [World.setSys_sys, complete_port] at hm
    exact List.mem_of_mem_erase hm
  · rw [World.setSys_sys, complete_port, Port.arrived_complete, List.mem_append] at hm
    refine hm.imp_right fun hm => ?_
    split_ifs at hm with hnull
    · exact absurd hm List.not_mem_nil
    · cases List.mem_singleton.1 hm
      exact (h.inflight key n hp).resolve_right hnull

/-- The loop turns to a packet. -/
theorem Served.next (h : Served s a d) {p : Packet} {port : Port Packet}
    (hp : s.sys.port.next = some (p, port)) : Served (s.setSys (s.sys.setPort port)) a d := by
  obtain ⟨x, hx, hact, hpd⟩ := h.watcher
  obtain ⟨b, hb, hgo⟩ := h.block
  refine h.keep (show (s.setSys _).heap a = some x from hx) hact hpd rfl hb hgo
    (fun _ _ => .inl rfl) (fun key n hm => .inl ?_) fun key n hm => .inl ?_
  · exact Port.inflight_of_next hp ▸ hm
  · rw [Port.arrived_of_next hp]
    exact List.mem_cons_of_mem p hm

theorem Served.takeUp (h : Served s a d) (n : ℕ) :
    Served (takeUp s (.io a (.data d) n)).1 a d := by
  obtain ⟨x, hx, hact, hpd⟩ := h.watcher
  obtain ⟨b, hb, hgo⟩ := h.block
  rw [takeUp_read h.nonnull hx hpd hb hgo]
  split_ifs
  · exact h
  · exact h.setSys IocpSys.setBlock_blocks_self hgo rfl rfl
  · exact h.setSys IocpSys.setBlock_blocks_self hgo rfl rfl
  · exact h.setSys IocpSys.setBlock_blocks_self hgo rfl rfl

/-- A completion of the watcher is taken up, and the watchers stay as they are. -/
theorem Served.takeUp_heap (h : Served s a d) (o : Overlapped) (n : ℕ) :
    (Iocp.takeUp s (.io a o n)).1.heap = s.heap := by
  obtain ⟨x, hx, -, hpd⟩ := h.watcher
  obtain ⟨b, hb, hgo⟩ := h.block
  by_cases ho : o = .data d
  · subst ho
    exact (takeUp_read_cases h.nonnull hx hpd hb hgo).1
  · rw [takeUp_client h.nonnull hx hpd hb hgo ho]

/-- A packet that names the watcher is a completion under its key. -/
theorem exists_of_names {p : Packet} (h : p.names a = true) : ∃ o n, p = .io a o n := by
  cases p with
  | io key o n =>
      unfold Packet.names at h
      simp only [Bool.and_eq_true, beq_iff_eq] at h
      exact ⟨o, n, by rw [h.1]⟩
  | sync => exact nomatch h
  | timer _ => exact nomatch h
  | wake => exact nomatch h

theorem Served.rearm (h : Served s a d) (refused : Option WinError) (events : PdEvent) (n : ℕ) :
    Served (rearm s refused (.read a events n)).1 a d := by
  obtain ⟨x, hx, hact, hpd⟩ := h.watcher
  obtain ⟨b, hb, hgo⟩ := h.block
  obtain ⟨hre, hheap⟩ := rearmed_rearm s refused (.read a events n)
  have hassoc := rearm_assoc s refused (.read a events n)
  generalize Iocp.rearm s refused (.read a events n) = r at hre hheap hassoc ⊢
  have hx' : r.1.heap a = some x := (congrFun hheap a).trans hx
  have hh : handles r.1 a = handles s a := by rw [handles, hheap]; rfl
  have hrearm : rearmHandle x ∈ handles s a := by simp [handles_eq hx]
  cases hre with
  | nothing hblocks hport =>
      exact h.of_issue hx' hact hpd hh ((congrFun hblocks d).trans hb) hgo hassoc (.inl hport)
  | issued hf _ _ hy he hb' _ _ hblocks hport =>
      cases hf
      obtain rfl := Option.some.inj (hx.symm.trans hy)
      obtain rfl := Option.some.inj (hpd.symm.trans he)
      obtain rfl := Option.some.inj (hb.symm.trans hb')
      exact h.of_issue hx' hact hpd hh ((congrFun hblocks d).trans (Function.update_self ..)) hgo
        hassoc (.inr ⟨_, hrearm, hport⟩)
  | unissued hf _ _ hy he hb' _ _ hblocks hport =>
      cases hf
      obtain rfl := Option.some.inj (hx.symm.trans hy)
      obtain rfl := Option.some.inj (hpd.symm.trans he)
      obtain rfl := Option.some.inj (hb.symm.trans hb')
      exact h.of_issue hx' hact hpd hh ((congrFun hblocks d).trans (Function.update_self ..)) hgo
        hassoc (.inl hport)

end Loop

end Iocp
end PollDancer
