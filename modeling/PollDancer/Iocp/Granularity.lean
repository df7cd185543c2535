/-
# The two models of the dispatch

`CrossThread` takes the dispatch of a packet and the unregistration of a watcher apart
into single accesses to shared memory; `takeUp`, `rearm` and `iocpWatcherUnregister` do
them in one go.  Accesses that are not interrupted add up to the same: `Shows` relates
the states of the two models, and `takeUp_uninterrupted`, `rearm_uninterrupted` and
`unregister_uninterrupted` run the small steps to the end of the large one.

The large steps that read a freed block are left out: they end a run in both models.
-/
import PollDancer.Iocp.CrossThread

namespace PollDancer
namespace Iocp
namespace CrossThread

open Library

/-- The watcher at `a` and its block at `d`, as the small steps see them. -/
structure Shows (a d : Addr) (w : IocpWorld) (s : State) : Prop where
  watcher : ∃ x, w.heap a = some x ∧ x.callback.isSome = true ∧
    (x.platformData = none ∨ x.platformData = some d) ∧
    s.watcher = some ⟨x.active, x.platformData.isSome⟩
  data : s.data = w.sys.blocks d

/-- The operation of a packet that names the watcher. -/
def overlappedOf (d : Addr) : Packet → Overlapped
  | .read _ => .data d
  | _ => .client

/-- Its number of bytes. -/
def bytesOf : Packet → ℕ
  | .read n => n
  | _ => 0

/-- The position of the loop thread in a mode it can be left in. -/
def pcOf : Mode → LoopPc
  | .callback (.write _) => .writeCallback
  | .callback (.read _ events n) => .readCallback events n
  | .callback .timer => .other
  | .idle => .idle
  | _ => .dispatch

/-- A step of the dispatch, between two callbacks. -/
def Step.dispatches : Step → Bool
  | .loop => true
  | .issue _ => true
  | _ => false

/-- The loop thread, left alone, comes from `s` to the outcome of a large step. -/
def Runs (a d : Addr) (s : State) (r : IocpWorld × Mode) : Prop :=
  ∃ ls s', ls.all Step.dispatches = true ∧ Machine.run step s ls = some s' ∧
    Shows a d r.1 s' ∧ s'.loop = pcOf r.2

section

variable {a d : Addr} {w : IocpWorld} {s : State} {x : PdWatcher Addr} {b : IocpWatcherData}

/-- The position of the threads is not shown. -/
theorem Shows.of_eq {s' : State} (h : Shows a d w s) (hwatcher : s'.watcher = s.watcher)
    (hdata : s'.data = s.data) : Shows a d w s' := by
  obtain ⟨x, hx, hcb, hpd, hsw⟩ := h.watcher
  exact ⟨⟨x, hx, hcb, hpd, hwatcher.trans hsw⟩, hdata.trans h.data⟩

/-- The block is written. -/
theorem Shows.writeBlock {s' : State} {k : IocpSys} (h : Shows a d w s)
    (hwatcher : s'.watcher = s.watcher) (hdata : s'.data = k.blocks d) :
    Shows a d (w.setSys k) s' := by
  obtain ⟨x, hx, hcb, hpd, hsw⟩ := h.watcher
  exact ⟨⟨x, hx, hcb, hpd, hwatcher.trans hsw⟩, hdata⟩

/-- The block is freed and the watcher told so. -/
theorem Shows.release {s' : State} (hcb : x.callback.isSome = true)
    (hwatcher : s'.watcher = some ⟨x.active, false⟩) (hdata : s'.data = none) :
    Shows a d ((w.setWatcher a { x with platformData := none }).setSys (w.sys.freeBlock d)) s' :=
  ⟨⟨_, World.setWatcher_heap_self .., hcb, Or.inl rfl, hwatcher⟩, by simp [hdata]⟩

/-- The packet is taken up while the block is allocated and not marked. -/
theorem takeUp_live {p : Packet} (h : Shows a d w s) (ha : a ≠ NULL) (hp : p.names = true)
    (hl : s.loop = .checkStopping p) (hx : w.heap a = some x) (hno : x.callback.isNone = false)
    (hpd : x.platformData = some d) (hsw : s.watcher = some ⟨x.active, true⟩)
    (hb : w.sys.blocks d = some b) (hgo : b.stopping = false) :
    Runs a d s (takeUp w (.io a (overlappedOf d p) (bytesOf p))) := by
  have hdata : s.data = some b := h.data.trans hb
  cases p with
  | drain => simp [Packet.names] at hp
  | other => simp [Packet.names] at hp
  | write =>
      have hr : takeUp w (.io a (overlappedOf d .write) (bytesOf .write)) =
          (w, .callback (.write a)) := by
        simp [takeUp, overlappedOf, ha, hx, hno, hpd, hb, hgo]
      rw [hr]
      refine ⟨[.loop, .loop], { s with loop := .writeCallback }, rfl, ?_, h.of_eq rfl rfl, rfl⟩
      simp [Machine.run, step, loopStep, hl, hsw, hdata, hgo]
  | read n =>
      by_cases hcan : isCancelled b = true
      · have hr : takeUp w (.io a (overlappedOf d (.read n)) (bytesOf (.read n))) =
            (w.setSys (w.sys.setBlock d { b with pendingOperation := false }), .dispatch) := by
          simp [takeUp, overlappedOf, ha, hx, hno, hpd, hb, hgo, hcan]
        rw [hr]
        refine ⟨[.loop, .loop, .loop, .loop], { s with
          data := some { b with pendingOperation := false }, loop := .dispatch }, rfl, ?_,
          h.writeBlock rfl (IocpSys.setBlock_blocks_self).symm, rfl⟩
        simp [Machine.run, step, loopStep, hl, hsw, hdata, hgo, hcan]
      · have hr : takeUp w (.io a (overlappedOf d (.read n)) (bytesOf (.read n))) =
            (w.setSys (w.sys.setBlock d { b with
              bytesAvailable := if (readEvents b n).has .read then n else b.bytesAvailable
              pendingOperation := false }), .callback (.read a (readEvents b n) n)) := by
          simp [takeUp, overlappedOf, bytesOf, ha, hx, hno, hpd, hb, hgo, hcan]
          rfl
        rw [hr]
        refine ⟨[.loop, .loop, .loop, .loop], { s with
          data := some { b with
            bytesAvailable := if (readEvents b n).has .read then n else b.bytesAvailable
            pendingOperation := false }
          loop := .readCallback (readEvents b n) n }, rfl, ?_,
          h.writeBlock rfl (IocpSys.setBlock_blocks_self).symm, rfl⟩
        simp [Machine.run, step, loopStep, hl, hsw, hdata, hgo, hcan]

/-- Taking up a packet of the watcher, from the read of `stopping` to the callback. -/
theorem takeUp_uninterrupted {p : Packet} (h : Shows a d w s) (ha : a ≠ NULL)
    (hp : p.names = true) (hl : s.loop = .checkStopping p)
    (hfault : (takeUp w (.io a (overlappedOf d p) (bytesOf p))).1.sys.fault = false) :
    Runs a d s (takeUp w (.io a (overlappedOf d p) (bytesOf p))) := by
  obtain ⟨x, hx, hcb, hpd, hsw⟩ := h.watcher
  have hno : x.callback.isNone = false := by
    rw [← Option.not_isSome, hcb]
    rfl
  rcases hpd with hpd | hpd
  · -- the platform data is gone
    have hr : takeUp w (.io a (overlappedOf d p) (bytesOf p)) = (w, .dispatch) := by
      simp [takeUp, ha, hx, hno, hpd]
    rw [hr]
    refine ⟨[.loop, .loop], { s with loop := .dispatch }, rfl, ?_, h.of_eq rfl rfl, rfl⟩
    simp [Machine.run, step, loopStep, hl, hsw, hpd]
  · have hsw' : s.watcher = some ⟨x.active, true⟩ := by simpa [hpd] using hsw
    cases hb : w.sys.blocks d with
    | none => simp [takeUp, ha, hx, hno, hpd, hb, World.setSys, IocpSys.setFault] at hfault
    | some b =>
        have hdata : s.data = some b := h.data.trans hb
        by_cases hstop : b.stopping = true
        · have hr : takeUp w (.io a (overlappedOf d p) (bytesOf p)) =
              ((w.setWatcher a { x with platformData := none }).setSys (w.sys.freeBlock d),
                .dispatch) := by
            simp [takeUp, ha, hx, hno, hpd, hb, hstop]
          rw [hr]
          refine ⟨[.loop, .loop, .loop], { s with
            watcher := some ⟨x.active, false⟩, data := none, loop := .dispatch },
            rfl, ?_, Shows.release hcb rfl rfl, rfl⟩
          simp [Machine.run, step, loopStep, hl, hsw', hdata, hstop]
        · exact takeUp_live h ha hp hl hx hno hpd hsw' hb (Bool.eq_false_iff.mpr hstop)

/-- The next read is issued, or refused and its intent retracted. -/
theorem rearm_live {events : PdEvent} {n : ℕ} {refused : Option WinError}
    (h : Shows a d w s) (hl : s.loop = .rearmCheck events n) (hx : w.heap a = some x)
    (hpd : x.platformData = some d) (hsw : s.watcher = some ⟨x.active, true⟩)
    (hread : events.has .read = true ∧ 0 < n) (hb : w.sys.blocks d = some b)
    (hgo : b.stopping = false) : Runs a d s (rearm w refused (.read a events n)) := by
  have hdata : s.data = some b := h.data.trans hb
  cases hissue : ((w.sys.touch d).setBlock d { b with
      internal := STATUS_SUCCESS, pendingOperation := true }).issueRead (rearmHandle x) d
      { b with internal := STATUS_SUCCESS, pendingOperation := true } refused with
  | error e =>
      have hr : rearm w refused (.read a events n) =
          (w.setSys (((w.sys.touch d).setBlock d { b with
            internal := STATUS_SUCCESS, pendingOperation := true }).setBlock d { b with
            internal := STATUS_SUCCESS, pendingOperation := false }), .dispatch) := by
        simp only [hgo] at hissue
        simp [rearm, hx, hpd, hread, hb, hgo, hissue]
      rw [hr]
      refine ⟨[.loop, .loop, .issue false, .loop], { s with
        data := some { b with internal := STATUS_SUCCESS, pendingOperation := false }
        loop := .dispatch }, rfl, ?_, h.writeBlock rfl (IocpSys.setBlock_blocks_self).symm, rfl⟩
      simp [Machine.run, step, loopStep, hl, hsw, hread, hdata, hgo]
  | ok k =>
      have hr : rearm w refused (.read a events n) = (w.setSys k, .dispatch) := by
        simp only [hgo] at hissue
        simp [rearm, hx, hpd, hread, hb, hgo, hissue]
      rw [hr]
      have hk : k.blocks d = some { b with
          internal := STATUS_PENDING, pendingOperation := true } := by
        rw [IocpSys.issueRead_ok hissue]
        exact IocpSys.setBlock_blocks_self
      refine ⟨[.loop, .loop, .issue true], { s with
        data := some { b with internal := STATUS_PENDING, pendingOperation := true }
        port := s.port.issue (.read 0)
        loop := .dispatch }, rfl, ?_, h.writeBlock rfl hk.symm, rfl⟩
      simp [Machine.run, step, loopStep, hl, hsw, hread, hdata, hgo]

/-- What follows the callback of a read. -/
theorem rearm_uninterrupted {events : PdEvent} {n : ℕ} {refused : Option WinError}
    (h : Shows a d w s) (hl : s.loop = .rearmCheck events n)
    (hfault : (rearm w refused (.read a events n)).1.sys.fault = false) :
    Runs a d s (rearm w refused (.read a events n)) := by
  obtain ⟨x, hx, hcb, hpd, hsw⟩ := h.watcher
  rcases hpd with hpd | hpd
  · -- the platform data is gone
    have hr : rearm w refused (.read a events n) = (w, .dispatch) := by simp [rearm, hx, hpd]
    rw [hr]
    refine ⟨[.loop], { s with loop := .dispatch }, rfl, ?_, h.of_eq rfl rfl, rfl⟩
    simp [Machine.run, step, loopStep, hl, hsw, hpd]
  · have hsw' : s.watcher = some ⟨x.active, true⟩ := by simpa [hpd] using hsw
    by_cases hread : events.has .read = true ∧ 0 < n
    · cases hb : w.sys.blocks d with
      | none => simp [rearm, hx, hpd, hread, hb, World.setSys, IocpSys.setFault] at hfault
      | some b =>
          have hdata : s.data = some b := h.data.trans hb
          by_cases hstop : b.stopping = true
          · have hr : rearm w refused (.read a events n) = (w, .dispatch) := by
              simp [rearm, hx, hpd, hread, hb, hstop]
            rw [hr]
            refine ⟨[.loop], { s with loop := .dispatch }, rfl, ?_, h.of_eq rfl rfl, rfl⟩
            simp [Machine.run, step, loopStep, hl, hsw', hdata, hstop]
          · exact rearm_live h hl hx hpd hsw' hread hb (Bool.eq_false_iff.mpr hstop)
    · have hr : rearm w refused (.read a events n) = (w, .dispatch) := by
        simp [rearm, hx, hpd, hread]
      rw [hr]
      refine ⟨[.loop], { s with loop := .dispatch }, rfl, ?_, h.of_eq rfl rfl, rfl⟩
      have hno : events.has .read = true → ¬ n = 0 → False :=
        fun hev hn => hread ⟨hev, Nat.pos_of_ne_zero hn⟩
      simp only [Machine.run, step, loopStep, hl, hsw']
      simpa using fun hev hn => (hno hev hn).elim

/-- `iocp_watcher_unregister` on another thread, up to the wait for the loop. -/
theorem unregister_uninterrupted {c : Caller} (h : Shows a d w s) (hd : s.destroyer = .entered c)
    (hx : w.heap a = some x)
    (hfault : (iocpWatcherUnregister w.sys a x).sys.fault = false) :
    ∃ n s', Machine.run step s (List.replicate n .destroy) = some s' ∧
      Shows a d ((w.setWatcher a { x with
        platformData := (iocpWatcherUnregister w.sys a x).platformData }).setSys
          (iocpWatcherUnregister w.sys a x).sys) s' ∧
      (s'.destroyer = .leave c (iocpWatcherUnregister w.sys a x).code ∨
        s'.destroyer = .checkThread c ∧ (iocpWatcherUnregister w.sys a x).code = .ok) := by
  obtain ⟨y, hy, hcb, hpd, hsw⟩ := h.watcher
  obtain rfl : x = y := Option.some.inj (hx.symm.trans hy)
  rcases hpd with hpd | hpd
  · have hr : iocpWatcherUnregister w.sys a x = ⟨w.sys, none, .invalidArg⟩ := by
      simp [iocpWatcherUnregister, hpd]
    rw [hr]
    refine ⟨1, { s with destroyer := .leave c .invalidArg }, ?_, ?_, Or.inl rfl⟩
    · simp [Machine.run, step, destroyStep, hd, hsw, hpd]
    · exact ⟨⟨_, World.setWatcher_heap_self .., hcb, Or.inl rfl, by simp [hsw, hpd]⟩, h.data⟩
  · have hsw' : s.watcher = some ⟨x.active, true⟩ := by simpa [hpd] using hsw
    cases hb : w.sys.blocks d with
    | none => simp [iocpWatcherUnregister, hpd, hb, IocpSys.setFault] at hfault
    | some b =>
        have hdata : s.data = some b := h.data.trans hb
        by_cases hstop : b.stopping = true
        · -- another call has marked it
          have hr : iocpWatcherUnregister w.sys a x = ⟨w.sys, some d, .ok⟩ := by
            simp [iocpWatcherUnregister, hpd, hb, hstop]
          rw [hr]
          refine ⟨2, { s with destroyer := .leave c .ok }, ?_, ?_, Or.inl rfl⟩
          · simp [Machine.run, List.replicate, step, destroyStep, hd, hsw', hdata, hstop]
          · exact ⟨⟨_, World.setWatcher_heap_self .., hcb, Or.inr rfl, by simp [hsw']⟩, h.data⟩
        · by_cases hpend : b.pendingOperation = true
          · -- the loop will free the block
            have hr : iocpWatcherUnregister w.sys a x =
                ⟨w.sys.setBlock d { b with stopping := true }, some d, .ok⟩ := by
              simp [iocpWatcherUnregister, hpd, hb, hstop, hpend]
            rw [hr]
            refine ⟨5, { s with
              data := some { b with stopping := true }, destroyer := .checkThread c },
              ?_, ?_, Or.inr ⟨rfl, rfl⟩⟩
            · simp [Machine.run, List.replicate, step, destroyStep, hd, hsw', hdata, hstop, hpend]
            · exact ⟨⟨_, World.setWatcher_heap_self .., hcb, Or.inr rfl, by simp [hsw']⟩, by simp⟩
          · -- nothing is in flight
            have hr : iocpWatcherUnregister w.sys a x = ⟨w.sys.freeBlock d, none, .ok⟩ := by
              simp [iocpWatcherUnregister, hpd, hb, hstop, hpend]
            rw [hr]
            refine ⟨5, { s with
              watcher := some ⟨x.active, false⟩, data := none, destroyer := .leave c .ok },
              ?_, Shows.release hcb rfl rfl, Or.inl rfl⟩
            simp [Machine.run, List.replicate, step, destroyStep, hd, hsw', hdata, hstop, hpend]

end
end CrossThread
end Iocp
end PollDancer
