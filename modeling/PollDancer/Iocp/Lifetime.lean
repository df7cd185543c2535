/-
# The watchers an IOCP loop reads

`iocp_loop_run` reads a watcher when it takes up a packet with the watcher's key, and
again when the callback of a read returns.  `pd_watcher_destroy` frees the watcher at
once, also where the backend has put off its teardown to a packet that is still to
come, so both reads can meet freed memory: `not_loop_spares_freed`.

A destroyed watcher is not read if it is destroyed when nothing is left that names it
(`Step.Orderly`): then no packet, no operation, no running callback and no later one
names a destroyed watcher (`Spared`), and `loop_spares_freed` follows.
-/
import PollDancer.Iocp.Loop

namespace PollDancer
namespace Iocp

open Library

/-- Is the callback of a read of the watcher running? -/
def Mode.inReadOf (w : Addr) : Mode → Bool
  | .callback (.read v _ _) => v == w
  | _ => false

/-- The handle is not associated with a destroyed watcher. -/
def keyKept (s : IocpWorld) (h : Handle) : Bool :=
  (s.sys.assoc h).all fun a => !s.destroyed.contains a

/-- The watcher has no handle left that is associated with a destroyed watcher, or is
gone. -/
def watcherKept (s : IocpWorld) (w : Addr) (handle : PdWatcher Addr → Handle) : Bool :=
  (s.heap w).all fun x => keyKept s (handle x)

/-- A watcher is destroyed only when no operation and no packet names it, and not from
the callback of one of its reads; and nothing is issued on a handle that is still
associated with a destroyed watcher. -/
def Step.orderly (s : State) : Step → Bool
  | .call (.destroy w) =>
      (s.world.sys.port.items.all fun p => !p.names w) && !s.mode.inReadOf w
  | .call (.update w events _) => !events.has .read || watcherKept s.world w readHandle
  | .clientWrite h => keyKept s.world h
  | .ret _ =>
      match s.mode with
      | .callback (.read w events _) => !events.has .read || watcherKept s.world w rearmHandle
      | _ => true
  | _ => true

/-- The step is orderly. -/
def Step.Orderly (s : State) (l : Step) : Prop := l.orderly s = true

instance (s : State) (l : Step) : Decidable (Step.Orderly s l) :=
  inferInstanceAs (Decidable (l.orderly s = true))

/-- No item of the port names one of the watchers. -/
def Unnamed (D : List Addr) (k : IocpSys) : Prop :=
  ∀ p ∈ k.port.items, ∀ w ∈ D, p.names w = false

/-- Nothing that the loop may still look at names a destroyed watcher. -/
structure Spared (s : State) : Prop where
  gone : ∀ w ∈ s.world.destroyed, s.world.heap w = none
  unnamed : Unnamed s.world.destroyed s.world.sys
  frame : ∀ w ∈ s.world.destroyed, s.mode.inReadOf w = false
  crashed : ∀ w, s.mode = .crashed w → w ∉ s.world.destroyed

section

variable {s s' : State} {D : List Addr} {k k' : IocpSys} {a : Addr} {o : Overlapped} {n : ℕ}

theorem Unnamed.of_port_eq (h : Unnamed D k) (hp : k'.port = k.port) : Unnamed D k' := by
  intro p hmem
  rw [hp] at hmem
  exact h p hmem

/-- An operation is issued whose key is not one of the watchers. -/
theorem Unnamed.issue (h : Unnamed D k) (ha : a = NULL ∨ a ∉ D)
    (hp : k'.port = k.port.issue (.io a o n)) : Unnamed D k' := by
  intro p hmem w hw
  rw [hp, Port.mem_issue] at hmem
  rcases hmem with rfl | hmem
  · rcases ha with rfl | ha
    · simp [Packet.names]
    · have hne : a ≠ w := by
        rintro rfl
        exact ha hw
      simp [Packet.names, hne]
  · exact h p hmem w hw

theorem keyKept_getD {w : IocpWorld} {h : Handle} (hk : keyKept w h = true) :
    (w.sys.assoc h).getD NULL = NULL ∨ (w.sys.assoc h).getD NULL ∉ w.destroyed := by
  unfold keyKept at hk
  cases hassoc : w.sys.assoc h with
  | none => exact Or.inl rfl
  | some a =>
      rw [hassoc] at hk
      exact Or.inr (by simpa using hk)

/-- What a call preserves: it names no watcher of `D` if it is not one of their
registrations and issues nothing under their keys. -/
theorem Unnamed.exec {w : IocpWorld} {c : Call IocpEnv} (h : Unnamed D w.sys)
    (hreg : ∀ a e, c.Registers w a e → a ∉ D)
    (hupd : ∀ a x events e, c = .update a events e → w.heap a = some x → events.has .read = true →
      (w.sys.assoc (readHandle x)).getD NULL = NULL ∨
        (w.sys.assoc (readHandle x)).getD NULL ∉ D) :
    Unnamed D (w.exec iocpOps c).1.sys := by
  refine World.exec_sys (P := Unnamed D) c h ?_ ?_ ?_ ?_
  · exact fun k a x hk => hk.of_port_eq (unregister_port (a := a))
  · intro a x e hr
    rcases registerOn_port w.sys a x e with hp | ⟨d, hp⟩
    · exact h.of_port_eq hp
    · exact h.issue (Or.inr (hreg a e hr)) hp
  · intro a x e hr
    simp only [iocpOps, iocpWatcherRegisterHandle]
    split_ifs
    · exact h
    · rcases registerOn_port w.sys a x e with hp | ⟨d, hp⟩
      · exact h.of_port_eq hp
      · exact h.issue (Or.inr (hreg a e hr)) hp
  · intro a x events e hc hx
    rcases update_port w.sys a { x with events } events e with
      hp | ⟨hread, d, hp⟩
    · exact h.of_port_eq hp
    · exact h.issue (hupd a x events e hc hx hread) hp

/-- Taking up a packet issues nothing and frees no watcher; it reads the watcher that the
packet names, and no other. -/
structure TakesUp (w : IocpWorld) (p : Packet) (r : IocpWorld × Mode) : Prop where
  port_eq : r.1.sys.port = w.sys.port
  destroyed_eq : r.1.destroyed = w.destroyed
  live_eq : ∀ v, (r.1.heap v).isSome = (w.heap v).isSome
  reads : ∀ v, r.2 = .crashed v ∨ r.2.inReadOf v = true → p.names v = true

/-- The watchers, the backend's memory or the mode change in a way that reads nothing. -/
theorem TakesUp.quiet {w : IocpWorld} {p : Packet} {r : IocpWorld × Mode}
    (hport : r.1.sys.port = w.sys.port) (hd : r.1.destroyed = w.destroyed)
    (hheap : r.1.heap = w.heap) (hmode : r.2 = .dispatch ∨ ∃ f, r.2 = .callback f ∧
      ∀ v events bytes, f ≠ .read v events bytes) : TakesUp w p r := by
  refine ⟨hport, hd, fun v => by rw [hheap], fun v hv => ?_⟩
  rcases hmode with hm | ⟨f, hm, hf⟩
  · rw [hm] at hv
    rcases hv with hv | hv <;> exact nomatch hv
  · rw [hm] at hv
    cases f with
    | timer => rcases hv with hv | hv <;> exact nomatch hv
    | write u => rcases hv with hv | hv <;> exact nomatch hv
    | read u events bytes => exact absurd rfl (hf u events bytes)

theorem takesUp_takeUp (w : IocpWorld) (p : Packet) : TakesUp w p (takeUp w p) := by
  cases p with
  | sync => exact .quiet rfl rfl rfl (Or.inl rfl)
  | timer fires =>
      cases fires with
      | false => exact .quiet rfl rfl rfl (Or.inl rfl)
      | true => exact .quiet rfl rfl rfl (Or.inr ⟨.timer, rfl, nofun⟩)
  | wake => exact .quiet rfl rfl rfl (Or.inl rfl)
  | io u o bytes =>
      have hname : u ≠ NULL → Packet.names u (.io u o bytes) = true := by
        intro hu
        simp [Packet.names, hu]
      have hframe : u ≠ NULL → ∀ (k : IocpSys) events, k.port = w.sys.port →
          TakesUp w (.io u o bytes) (w.setSys k, .callback (.read u events bytes)) := by
        intro hu k events hk
        refine ⟨hk, rfl, fun _ => rfl, fun v hv => ?_⟩
        rcases hv with hv | hv
        · exact nomatch hv
        · obtain rfl : u = v := beq_iff_eq.1 hv
          exact hname hu
      unfold takeUp
      dsimp only
      split_ifs with hu
      · exact .quiet rfl rfl rfl (Or.inl rfl)
      · cases hx : w.heap u with
        | none =>
            refine ⟨rfl, rfl, fun _ => rfl, fun v hv => ?_⟩
            rcases hv with hv | hv
            · obtain rfl := Mode.crashed.inj hv
              exact hname hu
            · exact nomatch hv
        | some x =>
            dsimp only
            split_ifs
            · exact .quiet rfl rfl rfl (Or.inl rfl)
            · cases x.platformData with
              | none => exact .quiet rfl rfl rfl (Or.inl rfl)
              | some d =>
                  dsimp only
                  cases w.sys.blocks d with
                  | none => exact .quiet rfl rfl rfl (Or.inl rfl)
                  | some b =>
                      dsimp only
                      split_ifs
                      · refine ⟨rfl, rfl, fun v => ?_, fun v hv => ?_⟩
                        · exact (SameWatchers.overwrite hx _ _).live_eq v
                        · rcases hv with hv | hv <;> exact nomatch hv
                      · exact .quiet rfl rfl rfl (Or.inr ⟨.write u, rfl, nofun⟩)
                      · exact .quiet rfl rfl rfl (Or.inl rfl)
                      · exact hframe hu _ _ rfl
                      · exact hframe hu _ _ rfl

/-- Re-arming issues at most one read, on a handle of the watcher whose callback has
returned; it reads that watcher, and no other. -/
structure Rearms (w : IocpWorld) (f : Frame) (r : IocpWorld × Mode) : Prop where
  destroyed_eq : r.1.destroyed = w.destroyed
  heap_eq : r.1.heap = w.heap
  mode_eq : r.2 = .dispatch ∨ ∃ v events bytes, f = .read v events bytes ∧ w.heap v = none ∧
    r.2 = .crashed v
  port_cases : r.1.sys.port = w.sys.port ∨ ∃ v events bytes x d, f = .read v events bytes ∧
    events.has .read = true ∧ w.heap v = some x ∧ r.1.sys.port =
      w.sys.port.issue (.io ((w.sys.assoc (rearmHandle x)).getD NULL) (.data d) 0)

theorem rearms_rearm (w : IocpWorld) (refused : Option WinError) (f : Frame) :
    Rearms w f (rearm w refused f) := by
  cases f with
  | timer => exact ⟨rfl, rfl, Or.inl rfl, Or.inl rfl⟩
  | write u => exact ⟨rfl, rfl, Or.inl rfl, Or.inl rfl⟩
  | read u events bytes =>
      unfold rearm
      dsimp only
      cases hx : w.heap u with
      | none => exact ⟨rfl, rfl, Or.inr ⟨u, events, bytes, rfl, hx, rfl⟩, Or.inl rfl⟩
      | some x =>
          dsimp only
          cases x.platformData with
          | none => exact ⟨rfl, rfl, Or.inl rfl, Or.inl rfl⟩
          | some d =>
              dsimp only
              split_ifs with hread
              · cases w.sys.blocks d with
                | none => exact ⟨rfl, rfl, Or.inl rfl, Or.inl rfl⟩
                | some b =>
                    dsimp only
                    split_ifs
                    · exact ⟨rfl, rfl, Or.inl rfl, Or.inl rfl⟩
                    · split
                      · exact ⟨rfl, rfl, Or.inl rfl, Or.inl (by simp)⟩
                      · rename_i k hissue
                        simp only [Bool.and_eq_true] at hread
                        refine ⟨rfl, rfl, Or.inl rfl,
                          Or.inr ⟨u, events, bytes, x, d, rfl, hread.1, hx, ?_⟩⟩
                        rw [IocpSys.issueRead_ok hissue]
                        simp [IocpSys.setBlock]
              · exact ⟨rfl, rfl, Or.inl rfl, Or.inl rfl⟩

theorem complete_port {k : IocpSys} {p : Packet} {key : Addr} {o : Overlapped} {status : NtStatus}
    {data : List UInt8} : (k.complete p key o status data).port =
      k.port.complete p (if key = NULL then none else some (.io key o data.length)) := by
  unfold IocpSys.complete
  cases o with
  | client => rfl
  | data d =>
      dsimp only
      cases (k.setPort _).blocks d <;> rfl

theorem spared_init (h : Init s) : Spared s := by
  obtain ⟨hmode, -, -, hd, -⟩ := h
  refine ⟨?_, ?_, ?_, ?_⟩
  · rw [hd]
    exact fun _ hw => absurd hw List.not_mem_nil
  · rw [hd]
    exact fun _ _ _ hw => absurd hw List.not_mem_nil
  · rw [hd]
    exact fun _ hw => absurd hw List.not_mem_nil
  · intro w hw
    exact nomatch hmode.symm.trans hw

/-- Only the backend's state changes. -/
theorem Spared.setSys (h : Spared s) (hk : Unnamed s.world.destroyed k) : Spared (s.setSys k) :=
  ⟨h.gone, hk, h.frame, h.crashed⟩

/-- A call is made. -/
theorem Spared.call {c : Call IocpEnv} (h : Spared s) (hok : Step.Orderly s (.call c))
    (huser : s.mode.userRuns = true) (hfresh : freshFor s.world c = true) :
    Spared { s with world := (s.world.exec iocpOps c).1 } := by
  have hnew : ∀ a, c.callocs = some a → a ∉ s.world.destroyed := by
    intro a ha
    simpa [freshFor, ha] using hfresh
  have hcrashed : ∀ w, s.mode ≠ .crashed w := by
    intro w hw
    rw [hw] at huser
    exact nomatch huser
  have hlive : ∀ w ∈ s.world.destroyed, ((s.world.exec iocpOps c).1.heap w) = none := by
    intro w hw
    rw [← Option.not_isSome_iff_eq_none]
    intro hsome
    rcases World.live_of_exec hsome with ⟨hl, -⟩ | hl
    · rw [h.gone w hw] at hl
      exact nomatch hl
    · exact hnew w hl hw
  rcases World.exec_destroyed iocpOps s.world c with hd | ⟨a, rfl, hd⟩
  · refine ⟨hd ▸ hlive, hd ▸ ?_, hd ▸ h.frame, fun w hw => absurd hw (hcrashed w)⟩
    refine h.unnamed.exec (fun a e hr hmem => ?_) (fun a x events e hc hx hread => ?_)
    · -- the watcher that is registered is new, or live
      cases c with
      | create fd events callback userData env =>
          exact hnew a (World.calloc_eq_some.1 hr.1).1 hmem
      | createForHandle handle events callback userData env =>
          exact hnew a (World.calloc_eq_some.1 hr.1).1 hmem
      | start w env =>
          obtain ⟨rfl, hl, -⟩ := hr
          rw [h.gone a hmem] at hl
          exact nomatch hl
      | update => exact hr
      | stop => exact hr
      | destroy => exact hr
    · subst hc
      have hkept : watcherKept s.world a readHandle = true := by
        simpa [Step.Orderly, Step.orderly, hread] using hok
      rw [watcherKept, hx] at hkept
      exact keyKept_getD hkept
  · have hok' : (∀ p ∈ s.world.sys.port.items, p.names a = false) ∧ s.mode.inReadOf a = false := by
      simpa [Step.Orderly, Step.orderly] using hok
    refine ⟨fun w hw => ?_, ?_, fun w hw => ?_, fun w hw => absurd hw (hcrashed w)⟩
    · rw [hd] at hw
      rcases List.mem_cons.1 hw with rfl | hw
      · exact destroy_heap_self
      · exact hlive w hw
    · have hun : Unnamed (a :: s.world.destroyed) s.world.sys := by
        intro p hp w hw
        rcases List.mem_cons.1 hw with rfl | hw
        · exact hok'.1 p hp
        · exact h.unnamed p hp w hw
      rw [hd]
      exact hun.exec (fun _ _ hr => hr.elim) (fun _ _ _ _ hc => nomatch hc)
    · rw [hd] at hw
      rcases List.mem_cons.1 hw with rfl | hw
      · exact hok'.2
      · exact h.frame w hw

/-- The loop takes up a packet of the port. -/
theorem Spared.takeUp {p : Packet} {port : Port Packet} (h : Spared s)
    (hp : s.world.sys.port.next = some (p, port)) :
    Spared ⟨(takeUp (s.world.setSys (s.world.sys.setPort port)) p).1,
      (Iocp.takeUp (s.world.setSys (s.world.sys.setPort port)) p).2⟩ := by
  have ht := takesUp_takeUp (s.world.setSys (s.world.sys.setPort port)) p
  have hname : ∀ w ∈ s.world.destroyed, p.names w = false :=
    h.unnamed p ((Port.mem_of_next hp).2 (Or.inl rfl))
  refine ⟨fun w hw => ?_, ?_, fun w hw => ?_, fun w hm hw => ?_⟩
  · rw [ht.destroyed_eq] at hw
    rw [← Option.not_isSome_iff_eq_none, ht.live_eq w, World.setSys_heap, h.gone w hw]
    simp
  · intro q hq w hw
    rw [ht.port_eq] at hq
    rw [ht.destroyed_eq] at hw
    exact h.unnamed q ((Port.mem_of_next hp).2 (Or.inr hq)) w hw
  · rw [ht.destroyed_eq] at hw
    rw [← Bool.not_eq_true]
    intro hr
    exact nomatch (ht.reads w (Or.inr hr)).symm.trans (hname w hw)
  · rw [ht.destroyed_eq] at hw
    exact nomatch (ht.reads w (Or.inl hm)).symm.trans (hname w hw)

/-- A callback returns. -/
theorem Spared.rearm {f : Frame} {refused : Option WinError} (h : Spared s)
    (hmode : s.mode = .callback f) (hok : Step.Orderly s (.ret refused)) :
    Spared ⟨(rearm s.world refused f).1, (Iocp.rearm s.world refused f).2⟩ := by
  have hr := rearms_rearm s.world refused f
  refine ⟨fun w hw => ?_, ?_, fun w _ => ?_, fun w hm hw => ?_⟩
  · rw [hr.destroyed_eq] at hw
    exact (congrFun hr.heap_eq w).trans (h.gone w hw)
  · show Unnamed (Iocp.rearm s.world refused f).1.destroyed _
    rw [hr.destroyed_eq]
    rcases hr.port_cases with hp | ⟨v, events, bytes, x, d, rfl, hread, hx, hp⟩
    · exact h.unnamed.of_port_eq hp
    · have hkept : watcherKept s.world v rearmHandle = true := by
        simpa [Step.Orderly, Step.orderly, hmode, hread] using hok
      rw [watcherKept, hx] at hkept
      exact h.unnamed.issue (keyKept_getD hkept) hp
  · rcases hr.mode_eq with hm | ⟨v, events, bytes, -, -, hm⟩ <;> exact hm ▸ rfl
  · rw [hr.destroyed_eq] at hw
    rcases hr.mode_eq with hm' | ⟨v, events, bytes, rfl, -, hm'⟩
    · exact nomatch hm'.symm.trans hm
    · obtain rfl := Mode.crashed.inj (hm'.symm.trans hm)
      have hframe := h.frame v hw
      rw [hmode] at hframe
      simp [Mode.inReadOf] at hframe

/-- What one orderly step preserves. -/
theorem spared_step {l : Step} (h : Spared s) (hok : Step.Orderly s l)
    (hstep : step s l = some s') : Spared s' := by
  cases stepped_of_step hstep with
  | call huser hfresh => exact h.call hok huser hfresh
  | drainRead => exact h.setSys (h.unnamed.of_port_eq drainRead_port)
  | openHandle => exact h.setSys (h.unnamed.of_port_eq rfl)
  | closeHandle => exact h.setSys (h.unnamed.of_port_eq rfl)
  | clientWrite => exact h.setSys (h.unnamed.issue (keyKept_getD hok) rfl)
  | @complete key o n status data hp =>
      refine h.setSys (fun q hq w hw => ?_)
      rw [complete_port] at hq
      rcases Port.mem_complete hq with hq | hq
      · -- the packet has the key of the operation
        split_ifs at hq
        obtain rfl := Option.some.inj hq
        exact h.unnamed _ (List.mem_append_left _ hp) w hw
      · exact h.unnamed q hq w hw
  | post hp =>
      refine h.setSys (fun q hq w hw => ?_)
      rcases Port.mem_post.1 hq with rfl | hq
      · exact not_names_of_isSignal hp w
      · exact h.unnamed q hq w hw
  | wait => exact ⟨h.gone, fun q hq => h.unnamed q (Port.mem_take.1 hq), fun _ _ => rfl, nofun⟩
  | waitFailed => exact h.setSys (h.unnamed.of_port_eq rfl)
  | done => exact ⟨h.gone, h.unnamed, fun _ _ => rfl, nofun⟩
  | next hp => exact h.takeUp hp
  | ret hmode => exact h.rearm hmode hok

/-- The loop has just read a watcher that `pd_watcher_destroy` had freed. -/
def ReadsFreed (s : State) : Prop := ∃ w, s.mode = .crashed w ∧ w ∈ s.world.destroyed

/-- If watchers are destroyed only when nothing names them any more, the loop never reads
a destroyed watcher: neither through the key of a packet nor after a callback. -/
theorem loop_spares_freed (h : iocpRuns.Reach Step.Orderly s) : ¬ReadsFreed s := by
  have hspared : Spared s := h.invariant (fun _ => spared_init) fun _ _ _ hi hok hnext =>
    spared_step hi hok hnext
  rintro ⟨w, hmode, hw⟩
  exact hspared.crashed w hmode hw

end

/-- The callback stops its watcher, which is destroyed after the batch. -/
def destroyAfterBatch : List Step :=
  readArrives ++ [.call (.stop 100), .ret none, .next, .closeHandle 4, .call (.destroy 100)]

theorem destroyAfterBatch_spared : ∃ s, Machine.runGuarded Step.Orderly step iocpLoopCreate
    destroyAfterBatch = some s ∧ s.world.destroyed = [100] ∧ ¬ReadsFreed s := by
  have hrun : ∃ s, Machine.runGuarded Step.Orderly step iocpLoopCreate destroyAfterBatch = some s ∧
      s.world.destroyed = [100] := ⟨_, rfl, rfl⟩
  obtain ⟨s, hrun, hd⟩ := hrun
  exact ⟨s, hrun, hd, loop_spares_freed (.runGuarded (.init init_iocpLoopCreate) hrun)⟩

/-- The callback closes the socket and destroys its watcher, and returns. -/
def destroyInCallback : List Step :=
  readArrives ++ [.closeHandle 4, .call (.destroy 100), .ret none]

/-- The loop can read a watcher that has been destroyed. -/
theorem not_loop_spares_freed : ¬∀ s, iocpRuns.Reachable s → ¬ReadsFreed s := by
  intro h
  have hrun : ∃ s, Machine.run step iocpLoopCreate destroyInCallback = some s ∧ ReadsFreed s :=
    ⟨_, rfl, 100, rfl, by decide⟩
  obtain ⟨s, hrun, hread⟩ := hrun
  exact h s (Machine.Reach.run (.init init_iocpLoopCreate) hrun) hread

end Iocp
end PollDancer
