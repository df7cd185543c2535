/-
# Reads and client writes

All completions of a watcher come under one key.  The loop tells its own reads from the
operations of the client by the address of the `OVERLAPPED`, and reports the latter as
`PD_EVENT_WRITE` before it looks at anything that concerns reads.

`reads_undisturbed` compares a run with one from whose port everything is deleted but the
watcher's own reads.  The watcher is called back for its reads as before, drains the same
bytes, and is left in the same state.  In the longer run each completion that was deleted
leads to one callback, if the watcher has one; `pd_watcher_create` does not ask for it
(`not_writes_delivered`).
-/
import PollDancer.Iocp.OwnReads

namespace PollDancer
namespace Iocp

open Library

/-- What became of the completions of a watcher: those that the kernel has queued, and those
that the loop has taken up, with the callbacks each has led to.  And what has been drained. -/
structure Deliveries where
  posted : List Packet
  taken : List (Packet × List PdEvent)
  drained : List (List UInt8)
  deriving DecidableEq, Repr

/-- Nothing has happened. -/
def Deliveries.none : Deliveries := ⟨[], [], []⟩

/-- The events of the callback that has begun. -/
def Mode.callbacks : Mode → List PdEvent
  | .callback (.write _) => [.write]
  | .callback (.read _ events _) => [events]
  | _ => []

/-- What a step does for the watcher `a`. -/
def deliver (a : Addr) (s : State) (l : Step) (g : Deliveries) : Deliveries :=
  match l with
  | .complete (.io key o _) _ data =>
      if key = a then { g with posted := g.posted ++ [.io key o data.length] } else g
  | .next =>
      match s.world.sys.port.next with
      | none => g
      | some (p, port) =>
        if p.names a then
          let r := takeUp (s.world.setSys (s.world.sys.setPort port)) p
          { g with taken := g.taken ++ [(p, r.2.callbacks)] }
        else g
  | .drainRead b len =>
      match s.world.heap a with
      | none => g
      | some x =>
        if b = a then
          { g with drained := g.drained ++ [(iocpWatcherDrainRead s.world.sys x len).2] }
        else g
  | _ => g

/-- The watcher is not stopped or destroyed, its callbacks for writes do not touch it, nor
does what is done about other watchers. -/
def Step.discreet (a d : Addr) (s : State) (l : Step) : Prop :=
  match l with
  | .call c =>
      if c.target = some a then
        (c ≠ .stop a ∧ c ≠ .destroy a) ∧ s.mode ≠ .callback (.write a)
      else ∀ s' ∈ act s l, Untouched a d s.world s'.world
  | .drainRead b _ =>
      if b = a then s.mode ≠ .callback (.write a)
      else ∀ s' ∈ act s l, Untouched a d s.world s'.world
  | .next =>
      (s.world.sys.port.next.any fun r => r.1.names a) = true ∨
        ∀ s' ∈ act s l, Untouched a d s.world s'.world
  | .ret _ => s.mode.inReadOf a = true ∨ ∀ s' ∈ act s l, Untouched a d s.world s'.world
  | _ => True

instance (a d : Addr) (s : State) : (l : Step) → Decidable (l.discreet a d s)
  | .call _ => inferInstanceAs (Decidable (ite _ _ _))
  | .drainRead _ _ => inferInstanceAs (Decidable (ite _ _ _))
  | .next => inferInstanceAs (Decidable (_ ∨ _))
  | .ret _ => inferInstanceAs (Decidable (_ ∨ _))
  | .openHandle _ => isTrue trivial
  | .closeHandle _ => isTrue trivial
  | .clientWrite _ => isTrue trivial
  | .complete _ _ _ => isTrue trivial
  | .post _ => isTrue trivial
  | .wait _ => isTrue trivial
  | .waitFailed _ => isTrue trivial

/-- The steps that concern the reads of the watcher.  What is deleted is not there to fill a
batch, so each completed read is taken by a wait of its own. -/
def readSteps (a d : Addr) (s : State) : Step → List Step
  | .call c => if c.target = some a then [.call c] else []
  | .drainRead b len => if b = a then [.drainRead b len] else []
  | .openHandle h => if h ∈ handles s.world a then [.openHandle h] else []
  | .closeHandle h => if h ∈ handles s.world a then [.closeHandle h] else []
  | .complete p status data => if p.reads d then [.complete p status data] else []
  | .next =>
      match s.world.sys.port.next with
      | none => []
      | some (p, port) =>
        if p.reads d then
          let r := takeUp (s.world.setSys (s.world.sys.setPort port)) p
          .wait 1 :: .next :: if r.2 = .dispatch then [.next] else []
        else []
  | .ret refused => if s.mode.inReadOf a then [.ret refused, .next] else []
  | _ => []

/-- The mode of a loop that only knows of the reads of the watcher. -/
def Mode.forReads (a : Addr) (m : Mode) : Mode := if m.inReadOf a then m else .idle

/-- All completions are deleted but those of the watcher's own reads. -/
def State.readsOnly (s : State) (a d : Addr) : State where
  world := s.world.setSys (s.world.sys.setPort (s.world.sys.port.restrict (Packet.reads d)))
  mode := s.mode.forReads a

/-- Two loops agree on the watcher, and the second knows of nothing else. -/
structure Agree (a d : Addr) (s t : State) : Prop where
  served : Served s.world a d
  heap : t.world.heap a = s.world.heap a
  reads : SameReads (handles s.world a) d s.world.sys t.world.sys
  mode : t.mode = s.mode.forReads a

/-- Two records agree on the reads. -/
structure SameRecord (d : Addr) (g g' : Deliveries) : Prop where
  posted : g'.posted = g.posted.filter (Packet.reads d)
  taken : g'.taken = g.taken.filter fun r => r.1.reads d
  drained : g'.drained = g.drained

/-- The callback of the watcher. -/
def callbackOf (s : IocpWorld) (a : Addr) : Option Callback := (s.heap a).bind (·.callback)

/-- The completions of the watcher are taken up in their order, each once: `waiting` are those
that had been queued before.  If it has a callback, each one that is not of its own reads has
led to one callback, for a write. -/
structure Reported (a d : Addr) (c : Option Callback) (waiting : List Packet) (s : State)
    (g : Deliveries) : Prop where
  callback : callbackOf s.world a = c
  order : g.taken.map Prod.fst ++ s.world.sys.port.arrived.filter (Packet.names a) =
    waiting ++ g.posted
  writes : c.isSome = true → ∀ r ∈ g.taken, r.1.reads d = false → r.2 = [.write]

section Runs

variable {s s' t t' : State} {a d : Addr} {g g' : Deliveries}

theorem forReads_userRuns (m : Mode) : (m.forReads a).userRuns = true := by
  unfold Mode.forReads
  split_ifs with hm
  · cases m <;> first | rfl | exact nomatch hm
  · rfl

/-- The loop that only knows of the reads has not met freed memory. -/
theorem Agree.step_eq (h : Agree a d s t) (l : Step) : step t l = act t l := by
  have hmode : t.mode.userRuns = true := h.mode ▸ forReads_userRuns s.mode
  refine if_neg (Bool.not_eq_true _ ▸ ?_)
  rw [State.halted, h.reads.fault, Bool.false_or]
  split
  · rename_i hc
    rw [hc] at hmode
    exact nomatch hmode
  · rfl

/-- A step that does not concern the reads of the watcher. -/
theorem Agree.other (h : Agree a d s t)
    (hu : Untouched a d s.world s'.world)
    (harr : s'.world.sys.port.arrived.filter (Packet.reads d) =
      s.world.sys.port.arrived.filter (Packet.reads d))
    (hmode : s'.mode.forReads a = s.mode.forReads a) : Agree a d s' t := by
  have hmem : ∀ key n, .io key (.data d) n ∈ s'.world.sys.port.arrived →
      .io key (.data d) n ∈ s.world.sys.port.arrived := by
    intro key n hp
    have hfilter : Packet.io key (.data d) n ∈
        s'.world.sys.port.arrived.filter (Packet.reads d) :=
      List.mem_filter.2 ⟨hp, by simp [Packet.reads]⟩
    rw [harr] at hfilter
    exact (List.mem_filter.1 hfilter).1
  have hserved := h.served.of_untouched hu hmem
  obtain ⟨hheap, hblock, hhandles, hin⟩ := hu
  have hh : handles s'.world a = handles s.world a := by
    rw [handles, hheap]
    rfl
  refine ⟨hserved, h.heap.trans hheap.symm, ?_, h.mode.trans hmode.symm⟩
  rw [hh]
  refine ⟨h.reads.block.trans hblock.symm, fun g hg => ?_, fun g hg => ?_, ?_, h.reads.fault⟩
  · exact (h.reads.isOpen g hg).trans (hhandles g hg).1.symm
  · exact (h.reads.assoc g hg).trans (hhandles g hg).2.symm
  · rw [h.reads.port, Port.restrict, Port.restrict, hin, harr]

/-- The loop that only knows of the reads matches a step. -/
def Matches (a d : Addr) (s : State) (g : Deliveries) (t : State) (g' : Deliveries)
    (ls : List Step) : Prop :=
  ∃ r, Machine.run (Machine.recordStep step (deliver a)) (t, g') ls = some r ∧
    Agree a d s r.1 ∧ SameRecord d g r.2

/-- It does nothing. -/
theorem matches_nil (h : Agree a d s t) (hg : SameRecord d g g') : Matches a d s g t g' [] :=
  ⟨(t, g'), rfl, h, hg⟩

/-- It takes the same step. -/
theorem matches_single (h : Agree a d s t) {l : Step}
    (hact : act t l = some t') (h' : Agree a d s' t')
    (hg : SameRecord d g (deliver a t l g')) : Matches a d s' g t g' [l] := by
  refine ⟨(t', deliver a t l g'), ?_, h', hg⟩
  simp [Machine.run, Machine.recordStep, h.step_eq, hact]

/-- A call is made on the watcher. -/
theorem agree_call (h : Agree a d s t) (hg : SameRecord d g g')
    {c : Call IocpEnv} (hc : c.target = some a) (hok : c ≠ .stop a ∧ c ≠ .destroy a) :
    Matches a d { s with world := (s.world.exec iocpOps c).1 } g t g' [.call c] := by
  obtain ⟨x, hx, hact, hpd⟩ := h.served.watcher
  obtain ⟨b, hb, -⟩ := h.served.block
  have ht : t.world.heap a = some x := h.heap.trans hx
  have hcalloc : c.callocs = none := by
    cases c <;> first | rfl | exact nomatch hc
  have hcall : act t (.call c) = some { t with world := (t.world.exec iocpOps c).1 } := by
    refine if_pos ?_
    rw [h.mode, forReads_userRuns, freshFor, hcalloc]
    rfl
  refine matches_single h hcall ?_ hg
  cases c with
  | update e events env =>
      obtain rfl : e = a := Option.some.inj hc
      have hserved := h.served.update events env
      simp only [World.exec, update_eq hx hact, update_eq ht hact] at hserved ⊢
      refine ⟨hserved, ?_, ?_, h.mode⟩
      · exact (World.setWatcher_heap_self ..).trans (World.setWatcher_heap_self ..).symm
      · dsimp only
        rw [handles_update hx]
        refine (h.reads.update (w := { x with events }) hpd hb ?_ events env).1
        rw [handles_eq hx]
        exact List.mem_cons_self
  | start e env =>
      obtain rfl : e = a := Option.some.inj hc
      simp only [World.exec, start_of_active env hx hact, start_of_active env ht hact]
      exact h
  | stop e => exact absurd (by rw [Option.some.inj hc]) hok.1
  | destroy e => exact absurd (by rw [Option.some.inj hc]) hok.2
  | create => exact nomatch hc
  | createForHandle => exact nomatch hc

/-- The watcher is drained. -/
theorem agree_drainRead (h : Agree a d s t) (hg : SameRecord d g g')
    {x : PdWatcher Addr} (hx : s.world.heap a = some x) (len : ℕ) :
    Matches a d (s.setSys (iocpWatcherDrainRead s.world.sys x len).1)
      (deliver a s (.drainRead a len) g) t g' [.drainRead a len] := by
  obtain ⟨y, hy, -, hpd⟩ := h.served.watcher
  obtain rfl := Option.some.inj (hx.symm.trans hy)
  obtain ⟨b, hb, -⟩ := h.served.block
  have ht : t.world.heap a = some x := h.heap.trans hx
  obtain ⟨hreads, hbytes⟩ := h.reads.drainRead hpd hb len
  have hact : act t (.drainRead a len) =
      some (t.setSys (iocpWatcherDrainRead t.world.sys x len).1) := by
    simp only [act, ht]
    exact if_pos (h.mode ▸ forReads_userRuns s.mode)
  refine matches_single h hact ⟨h.served.drainRead hx len, h.heap, hreads, h.mode⟩ ?_
  simp only [deliver, hx, ht, if_pos, hbytes]
  exact ⟨hg.posted, hg.taken, by rw [hg.drained]⟩

theorem agree_openHandle (h : Agree a d s t) (hg : SameRecord d g g')
    {e : Handle} (hclosed : s.world.sys.isOpen e = false) :
    Matches a d (s.setSys (s.world.sys.openHandle e)) g t g' (readSteps a d s (.openHandle e)) := by
  unfold readSteps
  dsimp only
  split_ifs with he
  · have hact : act t (.openHandle e) = some (t.setSys (t.world.sys.openHandle e)) := by
      simp [act, h.reads.isOpen e he, hclosed]
    exact matches_single h hact
      ⟨h.served.openHandle e, h.heap, h.reads.openHandle e, h.mode⟩ hg
  · have hne : ∀ f ∈ handles s.world a, f ≠ e := fun f hf heq => he (heq ▸ hf)
    refine matches_nil (h.other ⟨rfl, rfl, fun f hf => ⟨?_, rfl⟩, rfl⟩ rfl rfl) hg
    exact Function.update_of_ne (hne f hf) ..

theorem agree_closeHandle (h : Agree a d s t) (hg : SameRecord d g g')
    {e : Handle} (hopen : s.world.sys.isOpen e = true) :
    Matches a d (s.setSys (s.world.sys.closeHandle e)) g t g'
      (readSteps a d s (.closeHandle e)) := by
  unfold readSteps
  dsimp only
  split_ifs with he
  · have hact : act t (.closeHandle e) = some (t.setSys (t.world.sys.closeHandle e)) := by
      simp [act, h.reads.isOpen e he, hopen]
    exact matches_single h hact
      ⟨h.served.closeHandle e, h.heap, h.reads.closeHandle e, h.mode⟩ hg
  · have hne : ∀ f ∈ handles s.world a, f ≠ e := fun f hf heq => he (heq ▸ hf)
    refine matches_nil (h.other ⟨rfl, rfl, fun f hf => ⟨?_, ?_⟩, rfl⟩ rfl rfl) hg
    · exact Function.update_of_ne (hne f hf) ..
    · exact Function.update_of_ne (hne f hf) ..

/-- The kernel completes an operation. -/
theorem agree_complete (h : Agree a d s t) (hg : SameRecord d g g')
    {key : Addr} {o : Overlapped} {n : ℕ} {status : NtStatus} {data : List UInt8}
    (hp : .io key o n ∈ s.world.sys.port.inflight) (hle : data.length ≤ bufferSize) :
    Matches a d (s.setSys (s.world.sys.complete (.io key o n) key o status data))
      (deliver a s (.complete (.io key o n) status data) g) t g'
      (readSteps a d s (.complete (.io key o n) status data)) := by
  unfold readSteps
  dsimp only
  split_ifs with hread
  · obtain rfl : o = .data d := by
      cases o with
      | data e => rw [eq_of_beq hread]
      | client => exact nomatch hread
    obtain ⟨b, hb, -⟩ := h.served.block
    have hmem : Packet.io key (.data d) n ∈ t.world.sys.port.inflight := by
      rw [h.reads.port]
      exact List.mem_filter.2 ⟨hp, hread⟩
    have hact : act t (.complete (.io key (.data d) n) status data) =
        some (t.setSys (t.world.sys.complete (.io key (.data d) n) key (.data d) status data)) :=
      if_pos ⟨hmem, hle⟩
    refine matches_single h hact
      ⟨h.served.complete hp, h.heap, h.reads.complete hb key n status data, h.mode⟩ ?_
    simp only [deliver]
    split_ifs
    · refine ⟨?_, hg.taken, hg.drained⟩
      simp [hg.posted, Packet.reads]
    · exact hg
  · have ho : o ≠ .data d := by
      rintro rfl
      exact hread (by simp [Packet.reads])
    have hnot : ∀ m, Packet.reads d (.io key o m) = false := by
      intro m
      cases o with
      | data e => simpa [Packet.reads] using hread
      | client => rfl
    have hport : (s.world.sys.complete (.io key o n) key o status data).port.restrict
        (Packet.reads d) = s.world.sys.port.restrict (Packet.reads d) := by
      rw [complete_port]
      refine Port.restrict_complete_of_neg (hnot n) fun p hp => ?_
      split_ifs at hp
      · exact absurd hp.symm (Option.some_ne_none p)
      · obtain rfl := Option.some.inj hp
        exact hnot _
    refine matches_nil (h.other ⟨rfl, ?_, fun e _ => ⟨?_, ?_⟩, ?_⟩ ?_ rfl) ?_
    · change (s.world.sys.complete _ key o status data).blocks d = _
      rw [complete_blocks]
      simp [ho]
    · exact congrFun (complete_isOpen s.world.sys _ key o status data) e
    · exact congrFun (IocpSys.complete_assoc ..) e
    · exact congrArg Port.inflight hport
    · exact congrArg Port.queue hport
    · simp only [deliver]
      split_ifs
      · refine ⟨?_, hg.taken, hg.drained⟩
        simp [hg.posted, hnot]
      · exact hg

/-- Something comes into the port that is no read of the watcher, or a batch is taken. -/
theorem agree_port (h : Agree a d s t) {port : Port Packet}
    {mode : Mode} (hport : port.restrict (Packet.reads d) =
      s.world.sys.port.restrict (Packet.reads d)) (hmode : mode.forReads a = s.mode.forReads a) :
    Agree a d ⟨s.world.setSys (s.world.sys.setPort port), mode⟩ t :=
  h.other ⟨rfl, rfl, fun _ _ => ⟨rfl, rfl⟩, congrArg Port.inflight hport⟩
    (congrArg Port.queue hport) hmode

/-- A loop with an empty batch comes to its end. -/
theorem step_done (hm : s.mode = .dispatch) (hfault : s.world.sys.fault = false)
    (hnext : s.world.sys.port.next = none) : step s .next = some { s with mode := .idle } := by
  have hrun : s.halted = false := by
    rw [State.halted, hfault, hm]
    rfl
  rw [step, hrun]
  simp [act, hm, hnext]

/-- The callback of a read returns. -/
theorem agree_ret (h : Agree a d s t) (hg : SameRecord d g g')
    {events : PdEvent} {n : ℕ} (hm : s.mode = .callback (.read a events n))
    (refused : Option WinError) :
    Matches a d ⟨(rearm s.world refused (.read a events n)).1,
        (rearm s.world refused (.read a events n)).2⟩ g t g' [.ret refused, .next] := by
  obtain ⟨x, hx, -, hpd⟩ := h.served.watcher
  obtain ⟨b, hb, hgo⟩ := h.served.block
  have ht : t.world.heap a = some x := h.heap.trans hx
  have hmt : t.mode = .callback (.read a events n) := by
    rw [h.mode, hm, Mode.forReads, if_pos (by simp [Mode.inReadOf])]
  have hrearm : rearmHandle x ∈ handles s.world a := by simp [handles_eq hx]
  obtain ⟨hreads, hms, hmt'⟩ := h.reads.rearm (n := n) hx ht hpd hb hgo hrearm refused events
  have hserved := h.served.rearm refused events n
  have hheap := (rearmed_rearm s.world refused (.read a events n)).2
  have hheap' := (rearmed_rearm t.world refused (.read a events n)).2
  have hact : act t (.ret refused) = some ⟨(rearm t.world refused (.read a events n)).1,
      (rearm t.world refused (.read a events n)).2⟩ := by
    simp only [act, hmt]
  rw [hms]
  rw [hmt'] at hact
  generalize (rearm s.world refused (.read a events n)).1 = w at hreads hserved hheap ⊢
  generalize (rearm t.world refused (.read a events n)).1 = v at hreads hheap' hact
  have hh : handles w a = handles s.world a := by rw [handles, hheap]; rfl
  -- the batch is empty, so the loop comes to its end
  have hnext : v.sys.port.next = none := by
    rw [hreads.port]
    rfl
  have hagree : Agree a d ⟨w, .dispatch⟩ ⟨v, .idle⟩ := by
    refine ⟨hserved, ?_, hh ▸ hreads, rfl⟩
    rw [hheap, hheap']
    exact h.heap
  refine ⟨(⟨v, .idle⟩, g'), ?_, hagree, hg⟩
  have hstep : step ⟨v, .dispatch⟩ .next = some ⟨v, .idle⟩ := step_done rfl hreads.fault hnext
  simp [Machine.run, Machine.recordStep, h.step_eq, hact, hstep, deliver, hnext]

/-- The loop that only knows of the reads takes a completed read by itself, and turns to it. -/
theorem agree_next (h : Agree a d s t) (hg : SameRecord d g g') (hm : s.mode = .dispatch)
    {p : Packet} {port : Port Packet} (hp : s.world.sys.port.next = some (p, port))
    (hread : p.reads d = true) {r : IocpWorld × Mode}
    (hr : takeUp (s.world.setSys (s.world.sys.setPort port)) p = r) :
    Matches a d ⟨r.1, r.2⟩ (deliver a s .next g) t g' (readSteps a d s .next) := by
  obtain ⟨x, hx, -, hpd⟩ := h.served.watcher
  obtain ⟨b, hb, hgo⟩ := h.served.block
  have ht : t.world.heap a = some x := h.heap.trans hx
  -- it is a read of the watcher, under its key
  obtain ⟨n, rfl⟩ : ∃ n, p = .io a (.data d) n := by
    cases p with
    | io key o n =>
        cases o with
        | data e =>
            obtain rfl : e = d := eq_of_beq hread
            have hmem : Packet.io key (.data e) n ∈ s.world.sys.port.arrived := by
              rw [Port.arrived_of_next hp]
              exact List.mem_cons_self
            obtain rfl := h.served.arrived key n hmem
            exact ⟨n, rfl⟩
        | client => exact nomatch hread
    | sync => exact nomatch hread
    | timer _ => exact nomatch hread
    | wake => exact nomatch hread
  have hnames : Packet.names a (.io a (.data d) n) = true := by
    simpa [Packet.names] using h.served.nonnull
  have hmt : t.mode = .idle := by
    rw [h.mode, hm]
    rfl
  have hqueue : 0 < t.world.sys.port.queue.length := by
    rw [h.reads.port, Port.restrict, Port.arrived_of_next hp, List.filter_cons_of_pos hread]
    exact Nat.succ_pos _
  have hnext : (t.world.sys.port.take 1).next =
      some (.io a (.data d) n, port.restrict (Packet.reads d)) := by
    rw [h.reads.port]
    exact Port.next_take_restrict hp hread
  have hsame : SameReads (handles s.world a) d (s.world.sys.setPort port)
      (t.world.sys.setPort (port.restrict (Packet.reads d))) := h.reads.setPort rfl
  obtain ⟨v, hv⟩ : ∃ v, takeUp (t.world.setSys (t.world.sys.setPort
      (port.restrict (Packet.reads d)))) (.io a (.data d) n) = v := ⟨_, rfl⟩
  have hserved := (h.served.next hp).takeUp n
  obtain ⟨hreads, hmode⟩ := hsame.takeUp (n := n)
    (s := s.world.setSys (s.world.sys.setPort port))
    (t := t.world.setSys (t.world.sys.setPort (port.restrict (Packet.reads d))))
    h.served.nonnull hx ht hpd hb hgo
  obtain ⟨hheap, hcases⟩ := takeUp_read_cases (n := n)
    (s := s.world.setSys (s.world.sys.setPort port)) h.served.nonnull hx hpd hb hgo
  obtain ⟨hheap', -⟩ := takeUp_read_cases (n := n)
    (s := t.world.setSys (t.world.sys.setPort (port.restrict (Packet.reads d))))
    h.served.nonnull ht hpd (hsame.block.trans hb) hgo
  rw [hr] at hserved hreads hmode hheap hcases
  rw [hv] at hreads hmode hheap'
  have hwait : step t (.wait 1) =
      some ⟨t.world.setSys (t.world.sys.setPort (t.world.sys.port.take 1)), .dispatch⟩ := by
    rw [h.step_eq]
    simp [act, hmt, Nat.succ_le_iff, hqueue]
  have htake : step ⟨t.world.setSys (t.world.sys.setPort (t.world.sys.port.take 1)), .dispatch⟩
      .next = some ⟨v.1, v.2⟩ := by
    have hrun : State.halted ⟨t.world.setSys (t.world.sys.setPort (t.world.sys.port.take 1)),
        .dispatch⟩ = false := by
      rw [State.halted]
      exact (Bool.or_false _).trans h.reads.fault
    rw [step, hrun, ← hv]
    simp only [Bool.false_eq_true, if_false, act, if_pos, World.setSys_sys,
      IocpSys.setPort_port, hnext]
    rfl
  have hrecord : ∀ c, SameRecord d { g with taken := g.taken ++ [(.io a (.data d) n, c)] }
      { g' with taken := g'.taken ++ [(.io a (.data d) n, c)] } := by
    intro c
    refine ⟨hg.posted, ?_, hg.drained⟩
    simp [hg.taken, hread]
  have hrun : ∀ ls, Machine.run (Machine.recordStep step (deliver a)) (t, g')
      (.wait 1 :: .next :: ls) = Machine.run (Machine.recordStep step (deliver a))
        (⟨v.1, v.2⟩, { g' with taken := g'.taken ++ [(.io a (.data d) n, v.2.callbacks)] }) ls := by
    intro ls
    simp only [Machine.run, Machine.recordStep, hwait, htake, Option.map_some, Option.bind_some]
    simp only [deliver, World.setSys_sys, IocpSys.setPort_port, hnext, hnames, if_true, ← hv]
    rfl
  have hh : handles r.1 a = handles s.world a := by
    rw [handles, hheap]
    rfl
  have hagree : ∀ m, m = r.2.forReads a → Agree a d ⟨r.1, r.2⟩ ⟨v.1, m⟩ := by
    intro m hm
    refine ⟨hserved, ?_, hh ▸ hreads, hm⟩
    rw [hheap, hheap']
    exact h.heap
  simp only [readSteps, deliver, hp, hread, hnames, if_true, hr]
  rw [Matches, hrun, hmode]
  rcases hcases with hdisp | hin
  · have hnone : v.1.sys.port.next = none := by
      rw [hreads.port]
      rfl
    rw [if_pos hdisp]
    refine ⟨(⟨v.1, .idle⟩, _), ?_, hagree .idle (by rw [hdisp]; rfl), hrecord r.2.callbacks⟩
    simp [Machine.run, Machine.recordStep, step_done (s := ⟨v.1, r.2⟩) hdisp hreads.fault hnone,
      deliver, hnone]
  · have hne : r.2 ≠ .dispatch := by
      intro hdisp
      rw [hdisp] at hin
      exact absurd hin Bool.false_ne_true
    rw [if_neg hne]
    exact ⟨(⟨v.1, r.2⟩, _), rfl, hagree r.2 (if_pos hin).symm, hrecord r.2.callbacks⟩

/-- A completion of the watcher's client, or of another watcher, is taken up. -/
theorem agree_next_other (h : Agree a d s t) (hm : s.mode = .dispatch) {p : Packet}
    {port : Port Packet} (hp : s.world.sys.port.next = some (p, port)) (hread : p.reads d = false)
    {r : IocpWorld × Mode} (hr : takeUp (s.world.setSys (s.world.sys.setPort port)) p = r)
    (hok : p.names a = true ∨ Untouched a d s.world r.1) : Agree a d ⟨r.1, r.2⟩ t := by
  have hport : r.1.sys.port = port := by
    rw [← hr]
    exact (takesUp_takeUp _ p).port_eq
  have hrest : port.restrict (Packet.reads d) = s.world.sys.port.restrict (Packet.reads d) :=
    Port.restrict_of_next_of_neg hp hread
  have hidle : s.mode.forReads a = .idle := by
    rw [hm]
    rfl
  cases hnames : p.names a with
  | true =>
      obtain ⟨x, hx, -, hpd⟩ := h.served.watcher
      obtain ⟨b, hb, hgo⟩ := h.served.block
      obtain ⟨o, n, rfl⟩ := exists_of_names hnames
      have ho : o ≠ .data d := by
        rintro rfl
        simp [Packet.reads] at hread
      rw [takeUp_client (s := s.world.setSys (s.world.sys.setPort port)) h.served.nonnull hx hpd hb
        hgo ho] at hr
      rw [← hr]
      refine agree_port h hrest ?_
      rw [hidle]
      dsimp only
      split_ifs <;> rfl
  | false =>
      have hu := hok.resolve_left (by rw [hnames]; exact Bool.false_ne_true)
      refine h.other hu ?_ ?_
      · rw [hport]
        exact congrArg Port.queue hrest
      · have hframe : r.2.inReadOf a = false := by
          refine Bool.eq_false_iff.2 fun hin => ?_
          rw [← hr] at hin
          have hyes := (takesUp_takeUp _ p).reads a (.inr hin)
          exact absurd (hnames.symm.trans hyes) Bool.false_ne_true
        rw [hidle]
        exact if_neg (Bool.eq_false_iff.1 hframe)

/-- What one step does. -/
theorem agree_step (h : Agree a d s t) (hg : SameRecord d g g') {l : Step}
    (hok : l.discreet a d s) (hstep : step s l = some s') :
    Matches a d s' (deliver a s l g) t g' (readSteps a d s l) := by
  have hact := act_of_step hstep
  cases l with
  | call c =>
      obtain ⟨-, hs⟩ := Option.ite_none_right_eq_some.1 hact
      obtain rfl := Option.some.inj hs
      by_cases hc : c.target = some a
      · simp only [readSteps, if_pos hc]
        simp only [Step.discreet, if_pos hc] at hok
        exact agree_call h hg hc hok.1
      · simp only [readSteps, if_neg hc]
        simp only [Step.discreet, if_neg hc] at hok
        obtain ⟨a₀, -, hat⟩ := callAt_exec s.world c
        refine matches_nil (h.other (hok _ hact) ?_ rfl) hg
        dsimp only
        rcases hat.port_cases with hport | ⟨key, e, -, hport⟩
        · rw [hport]
        · rw [hport, Port.arrived_issue]
  | drainRead b len =>
      cases stepped_of_step hstep with
      | drainRead hx =>
          by_cases hb : b = a
          · subst hb
            simp only [readSteps, if_pos]
            exact agree_drainRead h hg hx len
          · simp only [readSteps, if_neg hb]
            simp only [Step.discreet, if_neg hb] at hok
            have hrecord : deliver a s (.drainRead b len) g = g := by
              simp only [deliver, if_neg hb]
              split <;> rfl
            rw [hrecord]
            refine matches_nil (h.other (hok _ (act_of_step hstep)) ?_ rfl) hg
            exact congrArg (fun q : Port Packet => q.arrived.filter (Packet.reads d)) drainRead_port
  | openHandle e =>
      obtain ⟨hclosed, hs⟩ := Option.ite_none_right_eq_some.1 hact
      obtain rfl := Option.some.inj hs
      exact agree_openHandle h hg (by simpa using hclosed)
  | closeHandle e =>
      obtain ⟨hopen, hs⟩ := Option.ite_none_right_eq_some.1 hact
      obtain rfl := Option.some.inj hs
      exact agree_closeHandle h hg hopen
  | clientWrite e =>
      obtain ⟨-, hs⟩ := Option.ite_none_right_eq_some.1 hact
      obtain rfl := Option.some.inj hs
      exact matches_nil (agree_port h (Port.restrict_issue_of_neg rfl) rfl) hg
  | complete p status data =>
      cases stepped_of_step hstep with
      | complete hp => exact agree_complete h hg hp (length_le_of_complete hstep)
  | post p =>
      obtain ⟨hp, hs⟩ := Option.ite_none_right_eq_some.1 hact
      obtain rfl := Option.some.inj hs
      exact matches_nil
        (agree_port h (Port.restrict_post_of_neg (not_reads_of_isSignal hp d)) rfl) hg
  | wait n =>
      obtain ⟨⟨hm, -⟩, hs⟩ := Option.ite_none_right_eq_some.1 hact
      obtain rfl := Option.some.inj hs
      refine matches_nil (agree_port h Port.restrict_take ?_) hg
      rw [hm]
      rfl
  | waitFailed e =>
      obtain ⟨-, hs⟩ := Option.ite_none_right_eq_some.1 hact
      obtain rfl := Option.some.inj hs
      exact matches_nil (h.other ⟨rfl, rfl, fun _ _ => ⟨rfl, rfl⟩, rfl⟩ rfl rfl) hg
  | next =>
      have hm := mode_of_next hstep
      cases stepped_of_step hstep with
      | done hp =>
          simp only [readSteps, deliver, hp]
          refine matches_nil (h.other ⟨rfl, rfl, fun _ _ => ⟨rfl, rfl⟩, rfl⟩ rfl ?_) hg
          rw [hm]
          rfl
      | @next p port hp =>
          cases hread : p.reads d with
          | true => exact agree_next h hg hm hp hread rfl
          | false =>
              simp only [readSteps, hp, hread, Bool.false_eq_true, if_false]
              refine matches_nil (agree_next_other h hm hp hread rfl ?_) ?_
              · simp only [Step.discreet, hp, Option.any_some] at hok
                exact hok.imp_right fun hu => hu _ hact
              · simp only [deliver, hp]
                split_ifs
                · refine ⟨hg.posted, ?_, hg.drained⟩
                  simp [hg.taken, hread]
                · exact hg
  | ret refused =>
      cases stepped_of_step hstep with
      | @ret f _ hm =>
          cases hin : s.mode.inReadOf a with
          | true =>
              simp only [readSteps, hin, if_true]
              cases f with
              | read b events n =>
                  rw [hm] at hin
                  obtain rfl : b = a := eq_of_beq hin
                  exact agree_ret h hg hm refused
              | write b =>
                  rw [hm] at hin
                  exact absurd hin Bool.false_ne_true
              | timer =>
                  rw [hm] at hin
                  exact absurd hin Bool.false_ne_true
          | false =>
              simp only [readSteps, hin, Bool.false_eq_true, if_false]
              have hu := hok.resolve_left (by rw [hin]; exact Bool.false_ne_true) _ hact
              refine matches_nil (h.other hu ?_ ?_) hg
              · dsimp only
                rcases (rearms_rearm s.world refused f).port_cases with
                  hport | ⟨_, _, _, _, _, _, _, _, hport⟩
                · rw [hport]
                · rw [hport, Port.arrived_issue]
              · have hidle : s.mode.forReads a = .idle := if_neg (Bool.eq_false_iff.1 hin)
                rw [hidle]
                rcases (rearms_rearm s.world refused f).mode_eq with
                  hdisp | ⟨_, _, _, _, _, hcrash⟩
                · exact congrArg (Mode.forReads a) hdisp
                · exact congrArg (Mode.forReads a) hcrash


/-- A step that neither queues a completion of the watcher nor takes one up. -/
theorem Reported.keep {c : Option Callback} {waiting : List Packet}
    (h : Reported a d c waiting s g) (hcb : callbackOf s'.world a = callbackOf s.world a)
    (harr : s'.world.sys.port.arrived.filter (Packet.names a) =
      s.world.sys.port.arrived.filter (Packet.names a)) : Reported a d c waiting s' g :=
  ⟨hcb.trans h.callback, by rw [harr, h.order], h.writes⟩

/-- The kernel completes an operation. -/
theorem Reported.complete {c : Option Callback} {waiting : List Packet}
    (h : Reported a d c waiting s g) (ha : a ≠ NULL) (key : Addr) (o : Overlapped) (n : ℕ)
    (status : NtStatus) (data : List UInt8) :
    Reported a d c waiting (s.setSys (s.world.sys.complete (.io key o n) key o status data))
      (deliver a s (.complete (.io key o n) status data) g) := by
  have harr : (s.setSys (s.world.sys.complete (.io key o n) key o status data)
      ).world.sys.port.arrived.filter (Packet.names a) =
      s.world.sys.port.arrived.filter (Packet.names a) ++
        if key = a then [.io key o data.length] else [] := by
    refine (congrArg (fun q : Port Packet => q.arrived.filter (Packet.names a))
      complete_port).trans ?_
    rw [Port.arrived_complete, List.filter_append]
    congr 1
    by_cases hkey : key = a
    · simp [hkey, ha, Packet.names]
    · by_cases hnull : key = NULL
      · simp [hnull]
        exact fun heq => absurd heq.symm ha
      · simp [hkey, hnull, Packet.names]
  unfold deliver
  dsimp only
  split_ifs at harr ⊢ with hkey
  · refine ⟨h.callback, ?_, h.writes⟩
    rw [harr, ← List.append_assoc, h.order, List.append_assoc]
  · exact ⟨h.callback, by rw [harr, List.append_nil, h.order], h.writes⟩

/-- The loop turns to a packet. -/
theorem Reported.next {c : Option Callback} {waiting : List Packet}
    (h : Reported a d c waiting s g) (hserved : Served s.world a d) {p : Packet}
    {port : Port Packet} (hp : s.world.sys.port.next = some (p, port)) {r : IocpWorld × Mode}
    (hr : takeUp (s.world.setSys (s.world.sys.setPort port)) p = r)
    (hcb : callbackOf r.1 a = callbackOf s.world a) :
    Reported a d c waiting ⟨r.1, r.2⟩ (deliver a s .next g) := by
  have hport : r.1.sys.port = port := by
    rw [← hr]
    exact (takesUp_takeUp _ p).port_eq
  have hcons := Port.arrived_of_next hp
  simp only [deliver, hp, hr]
  split_ifs with hnames
  · refine ⟨hcb.trans h.callback, ?_, fun hc q hq hread => ?_⟩
    · have horder := h.order
      rw [hcons, List.filter_cons_of_pos hnames] at horder
      dsimp only
      rw [hport, List.map_append, List.append_assoc]
      exact horder
    · rcases List.mem_append.1 hq with hq | hq
      · exact h.writes hc q hq hread
      · obtain rfl := List.mem_singleton.1 hq
        obtain ⟨x, hx, -, hpd⟩ := hserved.watcher
        obtain ⟨b, hb, hgo⟩ := hserved.block
        obtain ⟨o, n, rfl⟩ := exists_of_names hnames
        have ho : o ≠ .data d := by
          rintro rfl
          simp [Packet.reads] at hread
        have hsome : x.callback.isNone = false := by
          have hcall := h.callback
          rw [callbackOf, hx, Option.bind_some] at hcall
          rw [hcall]
          simpa using hc
        rw [takeUp_client (s := s.world.setSys (s.world.sys.setPort port)) hserved.nonnull hx hpd hb
          hgo ho, hsome] at hr
        rw [← hr]
        rfl
  · refine ⟨hcb.trans h.callback, ?_, h.writes⟩
    have horder := h.order
    rw [hcons, List.filter_cons_of_neg hnames] at horder
    dsimp only
    rw [hport]
    exact horder

theorem callbackOf_of_heap {w w' : IocpWorld} (h : w'.heap a = w.heap a) :
    callbackOf w' a = callbackOf w a := by
  rw [callbackOf, callbackOf, h]

/-- What one step reports. -/
theorem reported_step {c : Option Callback} {waiting : List Packet}
    (h : Reported a d c waiting s g) (hserved : Served s.world a d) {l : Step}
    (hok : l.discreet a d s) (hstep : step s l = some s') :
    Reported a d c waiting s' (deliver a s l g) := by
  have hact := act_of_step hstep
  cases l with
  | call cl =>
      obtain ⟨-, hs⟩ := Option.ite_none_right_eq_some.1 hact
      obtain rfl := Option.some.inj hs
      refine h.keep ?_ ?_
      · by_cases hc : cl.target = some a
        · simp only [Step.discreet, if_pos hc] at hok
          obtain ⟨x, hx, hxact, -⟩ := hserved.watcher
          cases cl with
          | update e events env =>
              obtain rfl : e = a := Option.some.inj hc
              rw [World.exec, update_eq hx hxact, callbackOf, callbackOf, hx, World.setSys_heap,
                World.setWatcher_heap_self]
              rfl
          | start e env =>
              obtain rfl : e = a := Option.some.inj hc
              rw [World.exec, start_of_active env hx hxact]
          | stop e => exact absurd (by rw [Option.some.inj hc]) hok.1.1
          | destroy e => exact absurd (by rw [Option.some.inj hc]) hok.1.2
          | create => cases hc
          | createForHandle => cases hc
        · simp only [Step.discreet, if_neg hc] at hok
          exact callbackOf_of_heap (hok _ hact).1
      · obtain ⟨a₀, -, hat⟩ := callAt_exec s.world cl
        dsimp only
        rcases hat.port_cases with hport | ⟨key, e, -, hport⟩
        · rw [hport]
        · rw [hport, Port.arrived_issue]
  | drainRead b len =>
      have hrecord : (deliver a s (.drainRead b len) g).taken = g.taken ∧
          (deliver a s (.drainRead b len) g).posted = g.posted := by
        simp only [deliver]
        split
        · exact ⟨rfl, rfl⟩
        · split_ifs <;> exact ⟨rfl, rfl⟩
      cases stepped_of_step hstep with
      | drainRead hx =>
          refine ⟨h.callback, ?_, ?_⟩
          · rw [hrecord.1, hrecord.2, ← h.order]
            exact congrArg (fun q : Port Packet => g.taken.map Prod.fst ++
              q.arrived.filter (Packet.names a)) drainRead_port
          · rw [hrecord.1]
            exact h.writes
  | openHandle e =>
      cases stepped_of_step hstep with
      | openHandle => exact h.keep rfl rfl
  | closeHandle e =>
      cases stepped_of_step hstep with
      | closeHandle => exact h.keep rfl rfl
  | clientWrite e =>
      cases stepped_of_step hstep with
      | clientWrite => exact h.keep rfl rfl
  | complete p status data =>
      cases stepped_of_step hstep with
      | complete => exact h.complete hserved.nonnull _ _ _ status data
  | post p =>
      cases stepped_of_step hstep with
      | post hp =>
          refine h.keep rfl ?_
          dsimp only [State.setSys, World.setSys_sys, IocpSys.setPort_port]
          rw [Port.arrived_post, List.filter_append]
          simp [not_names_of_isSignal hp a]
  | wait n =>
      cases stepped_of_step hstep with
      | wait =>
          refine h.keep rfl ?_
          dsimp only [World.setSys_sys, IocpSys.setPort_port]
          rw [Port.arrived_take]
  | waitFailed e =>
      cases stepped_of_step hstep with
      | waitFailed => exact h.keep rfl rfl
  | next =>
      cases stepped_of_step hstep with
      | done hp =>
          simp only [deliver, hp]
          exact h.keep rfl rfl
      | @next p port hp =>
          refine h.next hserved hp rfl (callbackOf_of_heap ?_)
          simp only [Step.discreet, hp, Option.any_some] at hok
          rcases hok with hnames | hu
          · obtain ⟨o, n, rfl⟩ := exists_of_names hnames
            exact congrFun ((hserved.next hp).takeUp_heap o n) a
          · exact (hu _ hact).1
  | ret refused =>
      cases stepped_of_step hstep with
      | @ret f _ hm =>
          refine h.keep (callbackOf_of_heap (congrFun (rearms_rearm _ _ _).heap_eq a)) ?_
          dsimp only
          rcases (rearms_rearm s.world refused f).port_cases with
            hport | ⟨_, _, _, _, _, _, _, _, hport⟩
          · rw [hport]
          · rw [hport, Port.arrived_issue]

/-- What the comparison starts from. -/
theorem agree_readsOnly (h : Served s.world a d) (hfault : s.world.sys.fault = false) :
    Agree a d s (s.readsOnly a d) :=
  ⟨h, rfl, ⟨rfl, fun _ _ => rfl, fun _ _ => rfl, rfl, hfault⟩, rfl⟩

theorem Agree.outstanding_eq (h : Agree a d s t) :
    t.world.sys.outstanding d = s.world.sys.outstanding d := by
  rw [IocpSys.outstanding, IocpSys.outstanding, h.reads.port, Port.count_restrict]

/-- **Client writes do not disturb reads.**  In a run in which a watcher is not torn down, not
touched by its callbacks for writes, nor by what is done about other watchers, delete from the
port all completions but those of the watcher's own reads.  What is left is a run in which
these are taken up with the same callbacks, the same bytes are drained, and the watcher's block
and outstanding reads are in the end the same.  And in the full run the completions of the
watcher are taken up in order, each once, and if the watcher has a callback, each one that is
not of its own reads leads to one callback, for a write. -/
theorem reads_undisturbed {ls : List Step} (hserved : Served s.world a d)
    (hr : Machine.runGuarded (fun r l => Step.discreet a d r.1 l)
      (Machine.recordStep step (deliver a)) (s, .none) ls = some (s', g)) :
    (∃ t g', Machine.run (Machine.recordStep step (deliver a)) (s.readsOnly a d, .none)
        (Machine.translate (Machine.recordStep step (deliver a)) (fun r => readSteps a d r.1)
          (s, .none) ls) = some (t, g') ∧
      g'.taken = g.taken.filter (fun r => r.1.reads d) ∧ g'.drained = g.drained ∧
      t.world.sys.blocks d = s'.world.sys.blocks d ∧
      t.world.sys.outstanding d = s'.world.sys.outstanding d) ∧
    g.taken.map Prod.fst ++ s'.world.sys.port.arrived.filter (Packet.names a) =
      s.world.sys.port.arrived.filter (Packet.names a) ++ g.posted ∧
    ((callbackOf s.world a).isSome = true →
      ∀ r ∈ g.taken, r.1.reads d = false → r.2 = [.write]) := by
  -- a loop that has read freed memory takes no step
  cases hfault : s.world.sys.fault with
  | true =>
      have hnil : ls = [] ∧ (s', g) = (s, Deliveries.none) := by
        cases ls with
        | nil => exact ⟨rfl, (Option.some.inj hr).symm⟩
        | cons l ls =>
            obtain ⟨-, hr⟩ := Option.ite_none_right_eq_some.1 hr
            obtain ⟨r, hstep, -⟩ := Option.bind_eq_some_iff.1 hr
            obtain ⟨u, hu, -⟩ := Option.map_eq_some_iff.1 hstep
            have hhalted : s.halted = true := by
              rw [State.halted, hfault]
              rfl
            rw [Iocp.step, hhalted] at hu
            exact absurd hu.symm (Option.some_ne_none u)
      obtain ⟨rfl, heq⟩ := hnil
      obtain ⟨rfl, rfl⟩ := Prod.mk.inj heq
      exact ⟨⟨_, _, rfl, rfl, rfl, rfl, Port.count_restrict⟩, (List.append_nil _).symm,
        fun _ r hr' => absurd hr' List.not_mem_nil⟩
  | false =>
      let R : State × Deliveries → State × Deliveries → Prop := fun r r' =>
        (Agree a d r.1 r'.1 ∧ SameRecord d r.2 r'.2) ∧ Reported a d (callbackOf s.world a)
          (s.world.sys.port.arrived.filter (Packet.names a)) r.1 r.2
      have hstart : R (s, .none) (s.readsOnly a d, .none) :=
        ⟨⟨agree_readsOnly hserved hfault, rfl, rfl, rfl⟩, rfl, (List.append_nil _).symm,
          fun _ r hr' => absurd hr' List.not_mem_nil⟩
      have hmatch : ∀ r r' l r₁, R r r' → Step.discreet a d r.1 l →
          Machine.recordStep step (deliver a) r l = some r₁ →
          ∃ r₁', Machine.run (Machine.recordStep step (deliver a)) r' (readSteps a d r.1 l) =
            some r₁' ∧ R r₁ r₁' := by
        rintro ⟨s, g⟩ ⟨t, g'⟩ l r ⟨⟨hagree, hrecord⟩, hreported⟩ hok hnext
        obtain ⟨s', hstep, rfl⟩ := Option.map_eq_some_iff.1 hnext
        obtain ⟨r', hrun, hagree', hrecord'⟩ := agree_step hagree hrecord hok hstep
        exact ⟨r', hrun, ⟨hagree', hrecord'⟩, reported_step hreported hagree.served hok hstep⟩
      obtain ⟨⟨t, g'⟩, hrun, ⟨hagree, hrecord⟩, hreported⟩ := Machine.run_translate hmatch hstart hr
      exact ⟨⟨t, g', hrun, hrecord.taken, hrecord.drained, hagree.reads.block,
        hagree.outstanding_eq⟩, hreported.order, hreported.writes⟩

end Runs

/-- A watcher for reads on socket 4, with a callback or without. -/
def readerOn (callback : Option Callback) : List Step :=
  [.openHandle 4, .call (.create 4 .read callback 0 ⟨some 100, true, some 200, none, none, 0⟩)]

/-- A byte arrives, and a write of the client is cancelled.  The loop turns to both, and the
byte is drained in the callback. -/
def readThenWrite : List Step :=
  [.clientWrite 4, .complete (.io 100 (.data 200) 0) STATUS_SUCCESS [7],
    .complete (.io 100 .client 0) STATUS_CANCELLED [], .wait 2, .next, .drainRead 100 16,
    .ret none, .next]

/-- The reader is registered, and its first read is in flight. -/
theorem readerOn_served {callback : Option Callback}
    (h : callback = none ∨ callback = some (.user 1)) :
    ∃ s, Machine.run step iocpLoopCreate (readerOn callback) = some s ∧
      Served s.world 100 200 := by
  rcases h with rfl | rfl
  all_goals
    refine ⟨_, rfl, by decide, ⟨_, rfl, rfl, rfl⟩, ⟨_, rfl, rfl⟩, ?_, ?_, fun _ _ hp => nomatch hp⟩
    · intro h hh
      have hh : h ∈ [4, 4] := hh
      obtain rfl : h = 4 := by simpa using hh
      exact .inr rfl
    · intro key n hp
      have hp : Packet.io key (.data 200) n ∈ [Packet.io 100 (.data 200) 0] := hp
      obtain ⟨rfl, -⟩ : key = 100 ∧ n = 0 := by simpa using hp
      exact .inl rfl

theorem readThenWrite_undisturbed : ∃ (s s' t : State) (g g' : Deliveries),
    Machine.run step iocpLoopCreate (readerOn (some (.user 1))) = some s ∧
    Machine.runGuarded (fun r l => Step.discreet 100 200 r.1 l)
      (Machine.recordStep step (deliver 100)) (s, .none) readThenWrite = some (s', g) ∧
    g.taken = [(.io 100 (.data 200) 1, [.read]), (.io 100 .client 0, [.write])] ∧
    g.drained = [[7]] ∧
    Machine.run (Machine.recordStep step (deliver 100)) (s.readsOnly 100 200, .none)
      (Machine.translate (Machine.recordStep step (deliver 100)) (fun r => readSteps 100 200 r.1)
        (s, .none) readThenWrite) = some (t, g') ∧
    g'.taken = [(.io 100 (.data 200) 1, [.read])] ∧ g'.drained = [[7]] ∧
    t.world.sys.blocks 200 = s'.world.sys.blocks 200 := by
  obtain ⟨s, hs, hserved⟩ := readerOn_served (.inr rfl)
  have hrun : (Machine.runGuarded (fun r l => Step.discreet 100 200 r.1 l)
      (Machine.recordStep step (deliver 100)) (s, .none) readThenWrite).map (fun r =>
        (r.2.taken, r.2.drained)) =
      some ([(.io 100 (.data 200) 1, [.read]), (.io 100 .client 0, [.write])], [[7]]) := by
    obtain rfl := Option.some.inj hs
    decide +kernel
  obtain ⟨⟨s', g⟩, hr, hrecord⟩ := Option.map_eq_some_iff.1 hrun
  obtain ⟨htaken, hdrained⟩ := Prod.mk.inj hrecord
  obtain ⟨⟨t, g', ht, htaken', hdrained', hblock, -⟩, -, -⟩ := reads_undisturbed hserved hr
  refine ⟨s, s', t, g, g', hs, hr, htaken, hdrained, ht, ?_, ?_, hblock⟩
  · rw [htaken', htaken]
    rfl
  · exact hdrained'.trans hdrained

/-- A watcher without a callback is not called back for a write. -/
theorem not_writes_delivered : ¬ ∀ (a d : Addr) (s s' : State) (g : Deliveries) (ls : List Step),
    Served s.world a d →
    Machine.runGuarded (fun r l => Step.discreet a d r.1 l) (Machine.recordStep step (deliver a))
      (s, .none) ls = some (s', g) →
    ∀ r ∈ g.taken, r.1.reads d = false → r.2 = [.write] := by
  intro h
  obtain ⟨s, hs, hserved⟩ := readerOn_served (.inl rfl)
  obtain ⟨⟨s', g⟩, hr, htaken⟩ : ∃ r,
      Machine.runGuarded (fun r l => Step.discreet 100 200 r.1 l)
        (Machine.recordStep step (deliver 100)) (s, .none)
        [.clientWrite 4, .complete (.io 100 .client 0) STATUS_CANCELLED [], .wait 1, .next] =
          some r ∧ r.2.taken = [(.io 100 .client 0, [])] := by
    obtain rfl := Option.some.inj hs
    exact ⟨_, rfl, rfl⟩
  have hnone : ([] : List PdEvent) = [.write] :=
    h 100 200 s s' g _ hserved hr (.io 100 .client 0, []) (htaken ▸ List.mem_singleton_self _) rfl
  exact nomatch hnone

end Iocp
end PollDancer
