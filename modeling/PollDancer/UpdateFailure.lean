/-
# Updates that fail

`pd_watcher_update` writes the new mask to `watcher->events` before it asks the backend,
and takes it back on no exit.  `epoll_watcher_update` and `iocp_watcher_update` write it
to the backend's data as well before they reach the kernel.  So a failed update leaves a
watcher that reports a mask which the kernel does not have, and the next
`pd_watcher_start` registers that mask.

`Masks` says of a backend where it keeps the mask of a watcher and when a failed update
has written it.  A failed update is harmless exactly for a stopped watcher, and for a
mask that the watcher, and the backend's data where it was written, had already:
`Masks.unharmed_iff`, for each backend `failed_update_unharmed_iff`.
-/
import PollDancer.Epoll.World
import PollDancer.Iocp.Loop
import PollDancer.Kqueue.Update
import PollDancer.Lifecycle

namespace PollDancer

section Generic

variable {κ δ ω μ : Type}

/-- Where a backend keeps the mask of a watcher. -/
structure Masks (ops : PlatformOps κ δ ω) (μ : Type) where
  /-- The mask in the watcher's platform data. -/
  stored : κ → Option δ → Option μ
  /-- The mask that a registration stores. -/
  registered : Addr → ℤ → PdEvent → μ
  /-- An update that fails has written the mask. -/
  writes : κ → Option δ → Prop
  register_stored : ∀ k a w env, (ops.watcherRegister k a w env).code = .ok →
    stored (ops.watcherRegister k a w env).sys (ops.watcherRegister k a w env).platformData =
      some (registered a w.fd w.events)
  update_stored : ∀ k a w env, (ops.watcherUpdate k a w w.events env).code ≠ .ok →
    (stored (ops.watcherUpdate k a w w.events env).sys
        (ops.watcherUpdate k a w w.events env).platformData = stored k w.platformData ↔
      (writes k w.platformData → stored k w.platformData = some (registered a w.fd w.events)))

namespace Masks

variable {ops : PlatformOps κ δ ω} (m : Masks ops μ)

/-- The mask in the backend's watcher data. -/
def dataMask (s : World κ δ) (a : Addr) : Option μ :=
  (s.heap a).bind fun w => m.stored s.sys w.platformData

/-- The mask that `pd_watcher_stop` followed by `pd_watcher_start` registers, if both
return `PD_OK`. -/
def restartMask (s : World κ δ) (a : Addr) (env : ω) : Option μ :=
  let stopped := pdWatcherStop ops s a
  let started := pdWatcherStart ops stopped.1 a env
  if stopped.2 = .ok ∧ started.2 = .ok then m.dataMask started.1 a else none

/-- The watcher has the masks that it had before. -/
structure Unharmed (s s' : World κ δ) (a : Addr) : Prop where
  /-- `pd_watcher_get_events`. -/
  events : (s'.heap a).map (·.events) = (s.heap a).map (·.events)
  data : m.dataMask s' a = m.dataMask s a
  restart : ∀ env env' x x', m.restartMask s a env = some x → m.restartMask s' a env' = some x' →
    x' = x

/-- The update has nothing to write: the watcher is stopped, or it has the mask, and so has
the backend's data if a failed update writes there. -/
def Settled (s : World κ δ) (a : Addr) (w : PdWatcher δ) (events : PdEvent) : Prop :=
  w.active = false ∨ (events = w.events ∧
    (m.writes s.sys w.platformData →
      m.stored s.sys w.platformData = some (m.registered a w.fd events)))

variable {m} {s : World κ δ} {a : Addr} {w : PdWatcher δ} {events : PdEvent} {env : ω}

/-- A watcher that is stopped and started again has its mask registered. -/
theorem restartMask_eq {x : μ} (hw : s.heap a = some w)
    (hx : m.restartMask s a env = some x) : x = m.registered a w.fd w.events := by
  unfold restartMask at hx
  dsimp only at hx
  split at hx
  · rename_i hok
    obtain ⟨y, hy, hact, hfd, hev, -⟩ := stop_keeps hw hok.1
    by_cases hr : (ops.watcherRegister (pdWatcherStop ops s a).1.sys a { y with active := true }
        env).code = .ok
    · rw [start_of_ok hy hact rfl hr, dataMask, World.setSys_heap, World.setWatcher_heap_self] at hx
      have hreg := m.register_stored _ _ _ _ hr
      rw [← hfd, ← hev]
      exact Option.some.inj (hx.symm.trans hreg)
    · have hne := hok.2
      rw [start_of_ne_ok hy hact rfl hr] at hne
      exact absurd hne hr
  · exact nomatch hx

/-- **A failed update leaves the watcher as it was exactly if it had nothing to write.** -/
theorem unharmed_iff (hw : s.heap a = some w)
    (hfail : (pdWatcherUpdate ops s a events env).2 ≠ .ok) :
    m.Unharmed s (pdWatcherUpdate ops s a events env).1 a ↔ m.Settled s a w events := by
  cases hact : w.active with
  | false =>
      rw [update_of_inactive hw hact]
      refine iff_of_true ⟨rfl, rfl, fun env env' x x' hx hx' => ?_⟩ (Or.inl hact)
      exact (restartMask_eq hw hx').trans (restartMask_eq hw hx).symm
  | true =>
      generalize hr : ops.watcherUpdate s.sys a { w with events } events env = r
      rw [update_of_active hw hact hr] at hfail ⊢
      have hstored := m.update_stored s.sys a { w with events } env (by rw [hr]; exact hfail)
      rw [hr] at hstored
      have hw' : (World.setSys (s.setWatcher a { w with events, platformData := r.platformData })
          r.sys).heap a = some { w with events, platformData := r.platformData } :=
        World.setWatcher_heap_self ..
      constructor
      · intro h
        have hev : events = w.events := by
          have hsame := h.events
          rw [hw', hw] at hsame
          exact Option.some.inj hsame
        have hdata : m.stored r.sys r.platformData = m.stored s.sys w.platformData := by
          have hsame := h.data
          rwa [dataMask, dataMask, hw', hw] at hsame
        exact Or.inr ⟨hev, hstored.1 hdata⟩
      · rintro (hno | ⟨rfl, hsettled⟩)
        · exact nomatch hact.symm.trans hno
        · refine ⟨?_, ?_, fun env env' x x' hx hx' => ?_⟩
          · rw [hw', hw]
            rfl
          · rw [dataMask, dataMask, hw', hw]
            exact hstored.2 hsettled
          · exact (restartMask_eq hw' hx').trans (restartMask_eq hw hx).symm

end Masks

end Generic

/-- On epoll the mask is in `epoll_event`; an update that reaches the kernel has written
it. -/
def Epoll.epollMasks : Masks Epoll.epollOps UInt32 where
  stored _ pd := pd.map fun wd => wd.epollEvent.events
  registered _ _ events := Epoll.eventsToEpoll events
  writes k pd := k.data.isSome = true ∧ pd.isSome = true
  register_stored := by
    intro k a w env hok
    cases hd : k.data with
    | none =>
        have hr : Epoll.epollWatcherRegister k a w env = ⟨k, w.platformData, .loopClosed⟩ := by
          rw [Epoll.epollWatcherRegister, hd]
        rw [show Epoll.epollOps.watcherRegister = Epoll.epollWatcherRegister from rfl, hr] at hok
        exact nomatch hok
    | some d =>
        rcases Epoll.register_cases hd a w env with
          ⟨-, hne, -⟩ | ⟨-, hne, -⟩ | ⟨-, -, -, -, hy⟩
        · exact absurd hok hne
        · exact absurd hok hne
        · exact congrArg (Option.map fun wd => wd.epollEvent.events) hy.platformData_eq
  update_stored := by
    intro k a w env hfail
    cases hd : k.data with
    | none =>
        have hr : Epoll.epollWatcherUpdate k a w w.events env =
            ⟨k, w.platformData, .loopClosed⟩ := by
          rw [Epoll.epollWatcherUpdate, hd]
        rw [show Epoll.epollOps.watcherUpdate = Epoll.epollWatcherUpdate from rfl, hr]
        exact iff_of_true rfl fun hwrites => nomatch hwrites.1
    | some d =>
        rcases Epoll.update_cases hd a w w.events env with
          ⟨hpd, -, hy⟩ | ⟨wd, hpd, -, -, hy⟩ | ⟨-, -, hok, -⟩
        · rw [hpd, show Epoll.epollOps.watcherUpdate = Epoll.epollWatcherUpdate from rfl,
            hy.platformData_eq]
          exact iff_of_true rfl fun hwrites => nomatch hwrites.2
        · rw [hpd, show Epoll.epollOps.watcherUpdate = Epoll.epollWatcherUpdate from rfl,
            hy.platformData_eq]
          exact ⟨fun heq _ => heq.symm, fun heq => (heq ⟨rfl, rfl⟩).symm⟩
        · exact absurd hok hfail

/-- A registration on kqueue that succeeds stores the two changes that it has made. -/
theorem Kqueue.register_platformData {k : Kqueue.KqueueSys} {a : Addr}
    {w : PdWatcher Kqueue.KqueueWatcherData} {env : Kqueue.KqueueEnv}
    (hok : (Kqueue.kqueueWatcherRegister k a w env).code = .ok) :
    (Kqueue.kqueueWatcherRegister k a w env).platformData =
      some ⟨Kqueue.addFilter w.fd .read .read w.events a,
        Kqueue.addFilter w.fd .write .write w.events a⟩ := by
  revert hok
  unfold Kqueue.kqueueWatcherRegister
  cases k.data with
  | none => exact nofun
  | some d =>
      dsimp only
      cases env.dataAlloc with
      | false => exact nofun
      | true =>
          simp only [Bool.not_true, Bool.false_eq_true, if_false]
          split
          · exact nofun
          · split
            · split
              · exact fun _ => rfl
              · exact nofun
            · exact fun _ => rfl

/-- On kqueue the mask is in the two stored changes; no update that fails has written
them. -/
def Kqueue.kqueueMasks : Masks Kqueue.kqueueOps Kqueue.KqueueWatcherData where
  stored _ pd := pd
  registered a fd events :=
    ⟨Kqueue.addFilter fd .read .read events a, Kqueue.addFilter fd .write .write events a⟩
  writes _ _ := False
  register_stored _ _ _ _ hok := Kqueue.register_platformData hok
  update_stored := by
    intro k a w env hfail
    refine iff_of_true ?_ nofun
    change (Kqueue.kqueueWatcherUpdate k a w w.events env).code ≠ .ok at hfail
    change (Kqueue.kqueueWatcherUpdate k a w w.events env).platformData = w.platformData
    cases hd : k.data with
    | none => rw [Kqueue.kqueueWatcherUpdate, hd]
    | some d =>
        cases hpd : w.platformData with
        | none =>
            unfold Kqueue.kqueueWatcherUpdate
            rw [hd, hpd]
        | some wd =>
            obtain ⟨-, -, hok⟩ := Kqueue.update_of_events (w := w) a w.events env
              (by rw [hd]; rfl) (by rw [hpd]; rfl)
            exact absurd hok hfail

section Iocp

open Iocp

variable {k : IocpSys} {a d : Addr} {w : PdWatcher Addr} {env : IocpEnv}

/-- A registration on IOCP that succeeds stores the mask in the block that it publishes. -/
theorem Iocp.registerOn_events {h : Handle} {u : Option Addr} {v : Addr → Option Addr}
    (hok : (registerOn k a w h env u v).code = .ok) :
    ((registerOn k a w h env u v).platformData.bind (registerOn k a w h env u v).sys.blocks).map
      (·.events) = some w.events := by
  revert hok
  unfold registerOn
  cases k.calloc env.dataAlloc with
  | none => exact nofun
  | some d =>
      dsimp only
      split
      · exact nofun
      · rename_i k₁ hassoc
        have hb : k₁.blocks d = some (newData w.events) := by
          rw [IocpSys.associate_ok hassoc]
          exact IocpSys.setBlock_blocks_self
        split
        · split
          · exact nofun
          · intro _
            rw [Option.bind_some, IocpSys.setBlock_blocks_self]
            rfl
        · intro _
          rw [Option.bind_some, hb]
          rfl

/-- An update on IOCP that fails although there is platform data was refused the read, and
has written the mask to the block. -/
theorem Iocp.update_events_of_ne_ok {events : PdEvent} (hpd : w.platformData = some d)
    (hfail : (iocpWatcherUpdate k a w events env).code ≠ .ok) :
    ∃ b, k.blocks d = some b ∧ (iocpWatcherUpdate k a w events env).platformData = some d ∧
      ((iocpWatcherUpdate k a w events env).sys.blocks d).map (·.events) = some events := by
  revert hfail
  unfold iocpWatcherUpdate
  rw [hpd]
  dsimp only
  cases hb : k.blocks d with
  | none => exact fun hne => absurd rfl hne
  | some b =>
      dsimp only
      split
      · split
        · intro _
          refine ⟨b, rfl, rfl, ?_⟩
          rw [show ∀ (x : IocpSys) e, (x.setError e).blocks = x.blocks from fun _ _ => rfl,
            IocpSys.setBlock_blocks_self]
          rfl
        · exact fun hne => absurd rfl hne
      · exact fun hne => absurd rfl hne

end Iocp

/-- On IOCP the mask is in the block of the watcher; an update that finds the block has
written it. -/
def Iocp.iocpMasks : Masks Iocp.iocpOps PdEvent where
  stored k pd := (pd.bind k.blocks).map (·.events)
  registered _ _ events := events
  writes k pd := (pd.bind k.blocks).isSome = true
  register_stored := by
    intro k a w env hok
    change (Iocp.registerOn k a w (Iocp.fdToHandle w.fd) env none some).code = .ok at hok
    exact Iocp.registerOn_events hok
  update_stored := by
    intro k a w env hfail
    change (Iocp.iocpWatcherUpdate k a w w.events env).code ≠ .ok at hfail
    change ((Iocp.iocpWatcherUpdate k a w w.events env).platformData.bind
      (Iocp.iocpWatcherUpdate k a w w.events env).sys.blocks).map (·.events) = _ ↔ _
    cases hpd : w.platformData with
    | none =>
        have hr : Iocp.iocpWatcherUpdate k a w w.events env = ⟨k, none, .invalidArg⟩ := by
          rw [Iocp.iocpWatcherUpdate, hpd]
        rw [hr]
        exact iff_of_true rfl fun hwrites => nomatch hwrites
    | some d =>
        obtain ⟨b, hb, hpd', hev⟩ := Iocp.update_events_of_ne_ok hpd hfail
        rw [hpd']
        simp only [Option.bind_some, hb, hev, Option.map_some]
        exact ⟨fun heq _ => heq.symm, fun heq => (heq rfl).symm⟩

/-- **On each backend a failed update leaves the watcher as it was exactly if it had nothing
to write**: the watcher is stopped; or it had the mask already, and so had the backend's
data, where the backend writes there before it fails. -/
theorem failed_update_unharmed_iff (a : Addr) (events : PdEvent) :
    (∀ (s : Epoll.EpollWorld) w env, s.heap a = some w →
      (pdWatcherUpdate Epoll.epollOps s a events env).2 ≠ .ok →
      (Epoll.epollMasks.Unharmed s (pdWatcherUpdate Epoll.epollOps s a events env).1 a ↔
        Epoll.epollMasks.Settled s a w events)) ∧
    (∀ (s : Kqueue.KqueueWorld) w env, s.heap a = some w →
      (pdWatcherUpdate Kqueue.kqueueOps s a events env).2 ≠ .ok →
      (Kqueue.kqueueMasks.Unharmed s (pdWatcherUpdate Kqueue.kqueueOps s a events env).1 a ↔
        Kqueue.kqueueMasks.Settled s a w events)) ∧
    (∀ (s : Iocp.IocpWorld) w env, s.heap a = some w →
      (pdWatcherUpdate Iocp.iocpOps s a events env).2 ≠ .ok →
      (Iocp.iocpMasks.Unharmed s (pdWatcherUpdate Iocp.iocpOps s a events env).1 a ↔
        Iocp.iocpMasks.Settled s a w events)) :=
  ⟨fun _ _ _ hw hfail => Masks.unharmed_iff hw hfail,
    fun _ _ _ hw hfail => Masks.unharmed_iff hw hfail,
    fun _ _ _ hw hfail => Masks.unharmed_iff hw hfail⟩

/-- An epoll loop whose watcher for reads has lost its descriptor. -/
def closedUnder : Epoll.EpollWorld :=
  Epoll.performAll (Epoll.epollLoopCreate 3 fun fd => fd == 5) [Epoll.createAt 100 5, .closeFd 5]

/-- A watcher for reads of a kqueue loop that is closed. -/
def loopClosed : Kqueue.KqueueWorld :=
  { Kqueue.reader with sys := { Kqueue.reader.sys with data := none } }

/-- An IOCP loop with a watcher for reads whose peer has hung up. -/
def hungUp : Iocp.IocpWorld :=
  ((Library.Machine.run Iocp.step Iocp.iocpLoopCreate
    [.openHandle 4, Iocp.createReader, .complete (.io 100 (.data 200) 0) Iocp.STATUS_SUCCESS [],
      .wait 1, .next, .ret none, .next]).getD Iocp.iocpLoopCreate).world

/-- The kernel refuses the read. -/
def refusesRead : Iocp.IocpEnv := ⟨none, none, some Iocp.ERROR_INVALID_HANDLE, 0⟩

/-- On each backend a failed update can leave the watcher with the new mask. -/
theorem not_failed_update_unharmed :
    (¬∀ (s : Epoll.EpollWorld) a events env, (s.heap a).isSome →
      (pdWatcherUpdate Epoll.epollOps s a events env).2 ≠ .ok →
      Epoll.epollMasks.Unharmed s (pdWatcherUpdate Epoll.epollOps s a events env).1 a) ∧
    (¬∀ (s : Kqueue.KqueueWorld) a events env, (s.heap a).isSome →
      (pdWatcherUpdate Kqueue.kqueueOps s a events env).2 ≠ .ok →
      Kqueue.kqueueMasks.Unharmed s (pdWatcherUpdate Kqueue.kqueueOps s a events env).1 a) ∧
    (¬∀ (s : Iocp.IocpWorld) a events env, (s.heap a).isSome →
      (pdWatcherUpdate Iocp.iocpOps s a events env).2 ≠ .ok →
      Iocp.iocpMasks.Unharmed s (pdWatcherUpdate Iocp.iocpOps s a events env).1 a) := by
  have hmask : some (PdEvent.write) ≠ some .read := by decide
  have hboth : some (PdEvent.read ||| .write) ≠ some .read := by decide
  refine ⟨fun h => ?_, fun h => ?_, fun h => ?_⟩
  · exact hmask (h closedUnder 100 .write ⟨true, none, true⟩ rfl nofun).events
  · exact hmask (h loopClosed 100 .write Kqueue.answers rfl nofun).events
  · exact hboth (h hungUp 100 (.read ||| .write) refusesRead rfl nofun).events

/-- There, the updates to the mask for reads fail as well, and do no harm. -/
theorem same_mask_unharmed :
    Epoll.epollMasks.Unharmed closedUnder
      (pdWatcherUpdate Epoll.epollOps closedUnder 100 .read ⟨true, none, true⟩).1 100 ∧
    Kqueue.kqueueMasks.Unharmed loopClosed
      (pdWatcherUpdate Kqueue.kqueueOps loopClosed 100 .read Kqueue.answers).1 100 ∧
    Iocp.iocpMasks.Unharmed hungUp
      (pdWatcherUpdate Iocp.iocpOps hungUp 100 .read refusesRead).1 100 := by
  obtain ⟨he, hk, hi⟩ := failed_update_unharmed_iff 100 .read
  refine ⟨(he closedUnder _ ⟨true, none, true⟩ rfl nofun).2 (Or.inr ⟨rfl, fun _ => rfl⟩),
    (hk loopClosed _ Kqueue.answers rfl nofun).2 (Or.inr ⟨rfl, nofun⟩),
    (hi hungUp _ refusesRead rfl nofun).2 (Or.inr ⟨rfl, fun _ => rfl⟩)⟩

end PollDancer
