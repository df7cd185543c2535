/-
# Handles stay associated

`iocp_watcher_register` associates the watcher's handle with the completion port, and
nothing takes an association back but the closing of the handle: `iocp_watcher_unregister`
has no call for it.  A watcher that is stopped is started again by another
`iocp_watcher_register`, whose `CreateIoCompletionPort` fails on a handle that is
associated already.  So as long as its socket stays open no watcher can be started again
(`restart_refused`).
-/
import PollDancer.Iocp.Ownership

namespace PollDancer
namespace Iocp

open Library

namespace IocpSys

variable {k k' : IocpSys} {d a : Addr} {h : Handle} {b : IocpWatcherData}
  {refused : Option WinError}

@[simp]
theorem setError_assoc (e : WinError) : (k.setError e).assoc = k.assoc := rfl

@[simp]
theorem setBlock_assoc : (k.setBlock d b).assoc = k.assoc := rfl

@[simp]
theorem freeBlock_assoc : (k.freeBlock d).assoc = k.assoc := rfl

@[simp]
theorem setPort_assoc (port : Port Packet) : (k.setPort port).assoc = k.assoc := rfl

@[simp]
theorem setFault_assoc : k.setFault.assoc = k.assoc := rfl

theorem issueRead_assoc (hk : k.issueRead h d b refused = .ok k') : k'.assoc = k.assoc := by
  simp [issueRead_ok hk]

/-- A handle that is associated, or closed, is not associated again. -/
theorem associate_refused (hk : (k.assoc h).isSome = true ∨ k.isOpen h = false) :
    ∃ e, k.associate h a refused = .error e := by
  unfold associate
  cases hopen : k.isOpen h with
  | false => exact ⟨_, rfl⟩
  | true =>
      rcases hk with hassoc | hclosed
      · exact ⟨ERROR_INVALID_PARAMETER, by simp [hassoc]⟩
      · exact nomatch hopen.symm.trans hclosed

theorem complete_assoc (p : Packet) (key : Addr) (o : Overlapped) (status : NtStatus)
    (data : List UInt8) : (k.complete p key o status data).assoc = k.assoc := by
  unfold complete
  cases o with
  | client => rfl
  | data d =>
      dsimp only
      split <;> rfl

end IocpSys

section

variable {k : IocpSys} {a : Addr} {w : PdWatcher Addr} {h : Handle}

/-- A registration associates its handle, or nothing. -/
theorem registerOn_assoc (k : IocpSys) (a : Addr) (w : PdWatcher Addr) (h : Handle) (env : IocpEnv)
    (u : Option Addr) (v : Addr → Option Addr) :
    ((registerOn k a w h env u v).code ≠ .ok ∧
      (registerOn k a w h env u v).sys.assoc = k.assoc) ∨
    (registerOn k a w h env u v).sys.assoc = Function.update k.assoc h (some a) := by
  unfold registerOn
  cases k.calloc env.dataAlloc with
  | none => exact Or.inl ⟨nofun, rfl⟩
  | some d =>
      dsimp only
      split
      · exact Or.inl ⟨nofun, by simp⟩
      · rename_i k₁ hassoc
        have hk₁ : k₁.assoc = Function.update k.assoc h (some a) := by
          simp [IocpSys.associate_ok hassoc]
        refine Or.inr ?_
        split
        · split
          · simp [hk₁]
          · rename_i k₂ hissue
            simp [IocpSys.issueRead_assoc hissue, hk₁]
        · exact hk₁

/-- A registration fails on a handle that is associated already. -/
theorem registerOn_refused (env : IocpEnv) (u : Option Addr) (v : Addr → Option Addr)
    (hh : (k.assoc h).isSome = true ∨ k.isOpen h = false) :
    (registerOn k a w h env u v).code ≠ .ok := by
  unfold registerOn
  cases k.calloc env.dataAlloc with
  | none => exact nofun
  | some d =>
      dsimp only
      have hstill : (((k.touch d).setBlock d (newData w.events)).assoc h).isSome = true ∨
          ((k.touch d).setBlock d (newData w.events)).isOpen h = false := by
        rw [IocpSys.setBlock_assoc, IocpSys.touch_assoc]
        refine hh.imp_right fun hclosed => ?_
        change (k.touch d).isOpen h = false
        unfold IocpSys.touch
        split <;> exact hclosed
      obtain ⟨e, he⟩ := IocpSys.associate_refused hstill
      rw [he]
      exact nofun

theorem update_assoc (k : IocpSys) (a : Addr) (w : PdWatcher Addr) (events : PdEvent)
    (env : IocpEnv) : (iocpWatcherUpdate k a w events env).sys.assoc = k.assoc := by
  unfold iocpWatcherUpdate
  cases w.platformData with
  | none => rfl
  | some d =>
      dsimp only
      cases k.blocks d with
      | none => rfl
      | some b =>
          dsimp only
          split
          · split
            · simp
            · rename_i k₁ hissue
              simp [IocpSys.issueRead_assoc hissue]
          · rfl

theorem unregister_assoc (k : IocpSys) (a : Addr) (w : PdWatcher Addr) :
    (iocpWatcherUnregister k a w).sys.assoc = k.assoc := by
  unfold iocpWatcherUnregister
  cases w.platformData with
  | none => rfl
  | some d =>
      dsimp only
      cases k.blocks d with
      | none => rfl
      | some b =>
          dsimp only
          split_ifs <;> rfl

theorem unregister_isOpen (k : IocpSys) (a : Addr) (w : PdWatcher Addr) :
    (iocpWatcherUnregister k a w).sys.isOpen = k.isOpen := by
  unfold iocpWatcherUnregister
  cases w.platformData with
  | none => rfl
  | some d =>
      dsimp only
      cases k.blocks d with
      | none => rfl
      | some b =>
          dsimp only
          split_ifs <;> rfl

theorem stop_isOpen (s : IocpWorld) (a : Addr) :
    (pdWatcherStop iocpOps s a).1.sys.isOpen = s.sys.isOpen :=
  World.stop_invariant (P := fun t : IocpWorld => t.sys.isOpen = s.sys.isOpen) (fun _ => rfl)
    fun w _ _ _ hr => by rw [World.setSys_sys, ← hr]; exact unregister_isOpen s.sys a _

theorem drainRead_assoc (k : IocpSys) (w : PdWatcher Addr) (len : ℕ) :
    (iocpWatcherDrainRead k w len).1.assoc = k.assoc := by
  unfold iocpWatcherDrainRead
  cases w.platformData with
  | none => rfl
  | some d =>
      dsimp only
      split_ifs
      · rfl
      · cases k.blocks d with
        | none => rfl
        | some b =>
            dsimp only
            split_ifs <;> simp

theorem takeUp_assoc (s : IocpWorld) (p : Packet) : (takeUp s p).1.sys.assoc = s.sys.assoc := by
  cases p with
  | sync => rfl
  | timer fires => rfl
  | wake => rfl
  | io a o n =>
      unfold takeUp
      dsimp only
      split_ifs
      · rfl
      · cases s.heap a with
        | none => rfl
        | some x =>
            dsimp only
            split_ifs
            · rfl
            · cases x.platformData with
              | none => rfl
              | some d =>
                  dsimp only
                  cases s.sys.blocks d with
                  | none => rfl
                  | some b =>
                      dsimp only
                      split_ifs <;> rfl

theorem rearm_assoc (s : IocpWorld) (refused : Option WinError) (f : Frame) :
    (rearm s refused f).1.sys.assoc = s.sys.assoc := by
  cases f with
  | timer => rfl
  | write a => rfl
  | read a events n =>
      unfold rearm
      dsimp only
      cases s.heap a with
      | none => rfl
      | some x =>
          dsimp only
          cases x.platformData with
          | none => rfl
          | some d =>
              dsimp only
              split
              · cases s.sys.blocks d with
                | none => rfl
                | some b =>
                    dsimp only
                    split
                    · rfl
                    · split
                      · simp
                      · rename_i k hissue
                        simp [IocpSys.issueRead_assoc hissue]
              · rfl

/-- The loop writes to no descriptor: it may take away the platform data of a watcher. -/
theorem takeUp_heap (s : IocpWorld) (p : Packet) (w : PdWatcher Addr)
    (hw : (takeUp s p).1.heap a = some w) :
    ∃ x, s.heap a = some x ∧ x.isHandle = w.isHandle ∧ x.fd = w.fd := by
  obtain ⟨htaken, -⟩ := takenUp_takeUp s p
  cases htaken with
  | ignored hheap => exact ⟨w, hheap ▸ hw, rfl, rfl⟩
  | @released b d o n x y hp hb hx hcb hpd hy hst hheap =>
      rw [hheap] at hw
      rcases eq_or_ne a b with rfl | hne
      · rw [Function.update_self] at hw
        obtain rfl := Option.some.inj hw
        exact ⟨x, hx, rfl, rfl⟩
      · rw [Function.update_of_ne hne] at hw
        exact ⟨w, hw, rfl, rfl⟩
  | cancelled _ _ _ _ _ _ _ _ hheap => exact ⟨w, hheap ▸ hw, rfl, rfl⟩
  | completed _ _ _ _ _ _ _ _ hheap => exact ⟨w, hheap ▸ hw, rfl, rfl⟩

/-- No call takes an association back. -/
theorem exec_assoc (s : IocpWorld) (c : Call IocpEnv) (h : Handle)
    (hh : (s.sys.assoc h).isSome = true) : ((s.exec iocpOps c).1.sys.assoc h).isSome = true := by
  have hreg : ∀ a w h' env u v, ((registerOn s.sys a w h' env u v).sys.assoc h).isSome = true := by
    intro a w h' env u v
    rcases registerOn_assoc s.sys a w h' env u v with ⟨-, heq⟩ | heq
    · rwa [heq]
    · rw [heq]
      rcases eq_or_ne h h' with rfl | hne
      · rw [Function.update_self]
        rfl
      · rwa [Function.update_of_ne hne]
  refine World.exec_sys (P := fun k : IocpSys => (k.assoc h).isSome = true) c hh ?_ ?_ ?_ ?_
  · intro k a w hk
    rw [show iocpOps.watcherUnregister = iocpWatcherUnregister from rfl, unregister_assoc]
    exact hk
  · exact fun a w e _ => hreg a w _ e none some
  · intro a w e _
    change ((iocpWatcherRegisterHandle s.sys a w e).sys.assoc h).isSome = true
    unfold iocpWatcherRegisterHandle
    split
    · exact hh
    · exact hreg a w _ e _ _
  · intro a w events e _ _
    rw [show iocpOps.watcherUpdate = iocpWatcherUpdate from rfl, update_assoc]
    exact hh

end

/-! ### The socket of a watcher -/

/-- The socket of the watcher is associated with the port. -/
def Associated (s : IocpWorld) (a : Addr) : Prop :=
  ∀ w, s.heap a = some w → w.isHandle = false → (s.sys.assoc (fdToHandle w.fd)).isSome = true

/-- The socket of the watcher is not closed. -/
def KeepsOpen (a : Addr) (s : State) : Step → Prop
  | .closeHandle h => ∀ w, s.world.heap a = some w → w.isHandle = false → fdToHandle w.fd ≠ h
  | _ => True

section

variable {s s' : State} {a : Addr}

/-- The watcher with a socket after a call: it was there before with the same descriptor, or
its socket has been associated. -/
theorem exec_sockets (s : IocpWorld) (c : Call IocpEnv) (a : Addr) (w : PdWatcher Addr)
    (hw : (s.exec iocpOps c).1.heap a = some w) (hsock : w.isHandle = false) :
    (∃ x, s.heap a = some x ∧ x.isHandle = w.isHandle ∧ x.fd = w.fd) ∨
      ((s.exec iocpOps c).1.sys.assoc (fdToHandle w.fd)).isSome = true := by
  let P : IocpWorld → Prop := fun t => ∀ w, t.heap a = some w → w.isHandle = false →
    (∃ x, s.heap a = some x ∧ x.isHandle = w.isHandle ∧ x.fd = w.fd) ∨
      (t.sys.assoc (fdToHandle w.fd)).isSome = true
  have hkept : ∀ {t : IocpWorld}, t.heap a = s.heap a → P t :=
    fun heq w hw _ => Or.inl ⟨w, heq ▸ hw, rfl, rfl⟩
  -- a watcher that was there and is written back with its descriptor
  have hwrite : ∀ {b x y sys}, s.heap b = some x → y.isHandle = x.isHandle → y.fd = x.fd →
      P ((s.setWatcher b y).setSys sys) := by
    intro b x y sys hx hh hfd w hw _
    rcases eq_or_ne a b with rfl | hne
    · obtain rfl := Option.some.inj ((World.setWatcher_heap_self ..).symm.trans hw)
      exact Or.inl ⟨x, hx, hh.symm, hfd.symm⟩
    · exact Or.inl ⟨w, (World.setWatcher_heap_ne _ _ hne).symm.trans hw, rfl, rfl⟩
  refine World.exec_invariant (P := P) c (fun _ => hkept rfl) ?_ ?_ ?_ ?_ ?_ ?_ ?_ w hw hsock
  · exact fun _ _ _ _ _ _ _ _ _ _ => hkept rfl
  · exact fun _ _ _ _ _ _ _ _ _ _ _ _ _ _ => hkept rfl
  · intro b x env r loop hreg hx hb _ hr hok _ w hw hsock
    rcases eq_or_ne a b with rfl | hne
    · rw [World.setWatcher_heap_self] at hw
      obtain rfl := Option.some.inj hw
      refine Or.inr ?_
      cases c with
      | create fd events callback userData env' =>
          obtain rfl := Option.some.inj hx
          have hr' : registerOn s.sys a (newWatcher fd events callback userData) (fdToHandle fd) env
            none some = r := hr
          subst hr'
          rcases registerOn_assoc s.sys a (newWatcher fd events callback userData) (fdToHandle fd)
            env none some with ⟨hne, -⟩ | heq
          · exact absurd hok hne
          · rw [World.setWatcher_sys, World.setLoop_sys, World.setSys_sys, heq]
            simp [newWatcher]
      | createForHandle handle events callback userData env' =>
          obtain rfl := Option.some.inj hx
          exact nomatch hsock
      | update => exact hreg.elim
      | stop => exact hreg.elim
      | start => exact nomatch hx
      | destroy => exact hreg.elim
    · exact Or.inl ⟨w, (World.setWatcher_heap_ne _ _ hne).symm.trans hw, rfl, rfl⟩
  · exact fun b x env r _ hx _ _ => hwrite hx rfl rfl
  · exact fun b x events env r _ hx _ _ => hwrite hx rfl rfl
  · exact fun b x r _ hx _ _ => hwrite hx rfl rfl
  · intro b x _ hx w hw _
    have hdes : (pdWatcherCleanup iocpOps (pdWatcherStop iocpOps s b).1 b).free b =
        pdWatcherDestroy iocpOps s b := by rw [pdWatcherDestroy, hx]
    rw [hdes] at hw
    rcases eq_or_ne a b with rfl | hne
    · exact absurd (hw.symm.trans destroy_heap_self) (Option.some_ne_none w)
    · exact Or.inl ⟨w, (destroy_heap_ne hne).symm.trans hw, rfl, rfl⟩

/-- What a call preserves. -/
theorem associated_exec {s : IocpWorld} (c : Call IocpEnv) (h : Associated s a) :
    Associated (s.exec iocpOps c).1 a := by
  intro w hw hsock
  rcases exec_sockets s c a w hw hsock with ⟨x, hx, hxh, hfd⟩ | hassoc
  · rw [← hfd]
    exact exec_assoc s c _ (h x hx (hxh.trans hsock))
  · exact hassoc

/-- What a step that closes no socket of the watcher preserves. -/
theorem associated_step {l : Step} (h : Associated s.world a) (hok : KeepsOpen a s l)
    (hnext : iocpRuns.next s l s') : Associated s'.world a := by
  -- the step leaves the watcher and the associations alone
  have hsame : ∀ {t : IocpWorld}, t.heap = s.world.heap → t.sys.assoc = s.world.sys.assoc →
      Associated t a := by
    intro t hh ha w hw hsock
    rw [ha]
    exact h w (hh ▸ hw) hsock
  cases stepped_of_step hnext with
  | call => exact associated_exec _ h
  | drainRead => exact hsame rfl (drainRead_assoc ..)
  | openHandle => exact hsame rfl rfl
  | @closeHandle hd =>
      intro w hw hsock
      have hne := hok w hw hsock
      exact (congrArg Option.isSome (Function.update_of_ne hne ..)).trans (h w hw hsock)
  | clientWrite => exact hsame rfl rfl
  | complete => exact hsame rfl (IocpSys.complete_assoc ..)
  | post => exact hsame rfl rfl
  | wait => exact hsame rfl rfl
  | waitFailed => exact hsame rfl rfl
  | done => exact hsame rfl rfl
  | @next p port hp =>
      intro w hw hsock
      rw [takeUp_assoc]
      obtain ⟨x, hx, hxh, hfd⟩ := takeUp_heap (s.world.setSys (s.world.sys.setPort port)) p w hw
      rw [← hfd]
      exact h x hx (hxh.trans hsock)
  | ret hm => exact hsame (rearms_rearm _ _ _).heap_eq (rearm_assoc ..)

/-- The socket of a watcher stays associated for as long as it is not closed. -/
theorem associated_of_reach (h : iocpRuns.Reach (KeepsOpen a) s) : Associated s.world a := by
  refine h.invariant (I := fun s => Associated s.world a) ?_ fun _ _ _ => associated_step
  rintro s ⟨-, -, hheap, -⟩ w hw -
  exact nomatch (hheap a).symm.trans hw

/-- A watcher whose socket is associated cannot be started.  For a watcher of a handle the
call goes to the number that `fd_to_handle` makes of its descriptor -1; it fails as well
unless that is an open handle. -/
theorem start_refused {s : IocpWorld} {w : PdWatcher Addr} (env : IocpEnv) (h : Associated s a)
    (hw : s.heap a = some w)
    (hno : w.isHandle = true → s.sys.isOpen (fdToHandle w.fd) = false)
    (hact : w.active = false) : (pdWatcherStart iocpOps s a env).2 ≠ .ok := by
  have hrefused : (iocpOps.watcherRegister s.sys a { w with active := true } env).code ≠ .ok := by
    refine registerOn_refused (h := fdToHandle w.fd) env none some ?_
    cases hsock : w.isHandle with
    | false => exact Or.inl (h w hw hsock)
    | true => exact Or.inr (hno hsock)
  rw [start_of_ne_ok hw hact rfl hrefused]
  exact hrefused

/-- **A watcher that is stopped cannot be started again while its socket stays open**,
whatever the history and whatever the kernel answers. -/
theorem restart_refused {w : PdWatcher Addr} (env : IocpEnv) (h : iocpRuns.Reach (KeepsOpen a) s)
    (hw : s.world.heap a = some w)
    (hno : w.isHandle = true → s.world.sys.isOpen (fdToHandle w.fd) = false)
    (hok : (pdWatcherStop iocpOps s.world a).2 = .ok) :
    (pdWatcherStart iocpOps (pdWatcherStop iocpOps s.world a).1 a env).2 ≠ .ok := by
  obtain ⟨x, hx, hact, hfd, -, hsock⟩ := stop_keeps hw hok
  refine start_refused env (associated_exec (.stop a) (associated_of_reach h)) hx
    (fun hh => ?_) hact
  rw [hfd, stop_isOpen]
  exact hno (hsock.symm.trans hh)

end

end Iocp
end PollDancer
