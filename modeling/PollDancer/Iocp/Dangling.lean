/-
# Platform data that is freed and still named

`iocp_watcher_register` publishes the platform data of its watcher before it issues the first
read.  Where the read is refused it frees the block and leaves `platform_data` as it is, so a
`pd_watcher_start` that fails there leaves the watcher with a pointer to freed memory, which
the next `pd_watcher_drain_read`, `pd_watcher_stop`, `pd_watcher_update` or
`pd_watcher_destroy`, or the next packet with the watcher as its key, reads.

The other exits are careful, also where a block of an earlier start is still stopping: in
runs without such a start every watcher has platform data that is allocated, or none, and
freed platform data is not read (`data_safe`).
-/
import PollDancer.Iocp.OwnReads

namespace PollDancer
namespace Iocp

open Library

/-- Does registering the watcher end with a first read that is refused?  Its handle has been
associated with the port then. -/
def firstReadRefused (k : IocpSys) (w : PdWatcher Addr) (env : IocpEnv) : Bool :=
  (k.calloc env.dataAlloc).isSome && k.isOpen (fdToHandle w.fd) &&
    (k.assoc (fdToHandle w.fd)).isNone && env.refusedAssociate.isNone && w.events.has .read &&
    env.refusedRead.isSome

/-- Is the call a `pd_watcher_start` whose first read is refused? -/
def startRefused (s : IocpWorld) : Call IocpEnv → Bool
  | .start a env => (s.heap a).any fun x => !x.active && firstReadRefused s.sys x env
  | _ => false

/-- The platform data of the watcher is freed memory. -/
def Dangles (s : IocpWorld) (a : Addr) : Prop := ∃ d, Names s a d ∧ s.sys.blocks d = none

/-- The platform data of a watcher is allocated or `NULL`, and freed platform data has not been
read. -/
structure DataSafe (s : IocpWorld) : Prop where
  allocated : ∀ a, ¬Dangles s a
  unread : s.sys.fault = false

section Backend

variable {k k' : IocpSys} {a d : Addr} {h : Handle} {b : IocpWatcherData} {w : PdWatcher Addr}
  {env : IocpEnv}

/-! ### Which memory the backend reads -/

theorem associate_fault {refused : Option WinError} (hk : k.associate h a refused = .ok k') :
    k'.fault = k.fault := by
  rw [IocpSys.associate_ok hk]

theorem issueRead_fault {refused : Option WinError} (hk : k.issueRead h d b refused = .ok k') :
    k'.fault = k.fault := by
  rw [IocpSys.issueRead_ok hk]
  exact touch_fault

theorem registerOn_fault {u : Option Addr} {v : Addr → Option Addr} :
    (registerOn k a w h env u v).sys.fault = k.fault := by
  unfold registerOn
  cases k.calloc env.dataAlloc with
  | none => rfl
  | some d =>
      have hset : ((k.touch d).setBlock d (newData w.events)).fault = k.fault := touch_fault
      dsimp only
      split
      · exact hset
      · rename_i k₁ hassoc
        have hk₁ : k₁.fault = k.fault := (associate_fault hassoc).trans hset
        split_ifs
        · split
          · exact hk₁
          · rename_i k₂ hread
            exact (issueRead_fault hread).trans hk₁
        · exact hk₁

theorem registerHandle_fault : (iocpWatcherRegisterHandle k a w env).sys.fault = k.fault := by
  unfold iocpWatcherRegisterHandle
  split_ifs
  · rfl
  · exact registerOn_fault

/-- Registering reads no block. -/
theorem register_fault {s : IocpWorld} {c : Call IocpEnv} {r : OpResult IocpSys Addr}
    (hreg : c.Registers s a env) (hr : c.register iocpOps s.sys a w env = r) :
    r.sys.fault = s.sys.fault := by
  subst hr
  cases c with
  | create => exact registerOn_fault
  | createForHandle => exact registerHandle_fault
  | start => exact registerOn_fault
  | update => exact hreg.elim
  | stop => exact hreg.elim
  | destroy => exact hreg.elim

/-- The platform data of the watcher is not freed memory. -/
def Held (k : IocpSys) (w : PdWatcher Addr) : Prop :=
  ∀ d, w.platformData = some d → k.blocks d ≠ none

/-- A watcher that has been registered has its block. -/
theorem Registered.held {r : OpResult IocpSys Addr} (hr : Registered k a w env r)
    (hok : r.code = .ok) : Held r.sys { w with platformData := r.platformData } := by
  have hset : ∀ {e : Addr} {b : IocpWatcherData}, r.platformData = some e →
      r.sys.blocks = Function.update k.blocks e (some b) →
      Held r.sys { w with platformData := r.platformData } := by
    intro e b he hblocks d hpd
    obtain rfl := Option.some.inj (he.symm.trans hpd)
    rw [hblocks, Function.update_self]
    exact Option.some_ne_none b
  cases hr with
  | refused hne => exact absurd hok hne
  | unread _ _ _ hpd hblocks => exact hset hpd hblocks
  | reading _ _ _ hpd hblocks => exact hset hpd hblocks

theorem Held.update_fault (hw : Held k w) {events : PdEvent} :
    (iocpWatcherUpdate k a w events env).sys.fault = k.fault := by
  unfold iocpWatcherUpdate
  cases hpd : w.platformData with
  | none => rfl
  | some d =>
      dsimp only
      cases hb : k.blocks d with
      | none => exact absurd hb (hw d hpd)
      | some b =>
          dsimp only
          split_ifs
          · split
            · exact touch_fault
            · rename_i k₁ hissue
              exact (issueRead_fault hissue).trans touch_fault
          · rfl

theorem Held.unregister_fault (hw : Held k w) :
    (iocpWatcherUnregister k a w).sys.fault = k.fault := by
  unfold iocpWatcherUnregister
  cases hpd : w.platformData with
  | none => rfl
  | some d =>
      dsimp only
      cases hb : k.blocks d with
      | none => exact absurd hb (hw d hpd)
      | some b =>
          dsimp only
          split_ifs <;> rfl

theorem Held.drainRead_fault (hw : Held k w) (len : ℕ) :
    (iocpWatcherDrainRead k w len).1.fault = k.fault := by
  unfold iocpWatcherDrainRead
  cases hpd : w.platformData with
  | none => rfl
  | some d =>
      dsimp only
      split_ifs
      · rfl
      · cases hb : k.blocks d with
        | none => exact absurd hb (hw d hpd)
        | some b =>
            dsimp only
            split_ifs
            · rfl
            · exact touch_fault
            · rfl

theorem complete_fault (k : IocpSys) (p : Packet) (key : Addr) (o : Overlapped)
    (status : NtStatus) (data : List UInt8) :
    (k.complete p key o status data).fault = k.fault := by
  unfold IocpSys.complete
  cases o with
  | client => rfl
  | data d =>
      dsimp only
      split <;> rfl

/-- A block that is written is not freed. -/
theorem free_of_update {e : Addr} (hk : k'.blocks = Function.update k.blocks e (some b))
    (hd : k'.blocks d = none) : k.blocks d = none := by
  rw [hk] at hd
  rcases eq_or_ne d e with rfl | hne
  · rw [Function.update_self] at hd
    exact nomatch hd
  · rwa [Function.update_of_ne hne] at hd

/-- An update does not free anything. -/
theorem Updated.free {events : PdEvent} {r : OpResult IocpSys Addr}
    (hr : Updated k w events env r) (hd : r.sys.blocks d = none) : k.blocks d = none := by
  cases hr with
  | absent _ hk => rwa [hk] at hd
  | dangling _ _ hblocks => rwa [hblocks] at hd
  | noted _ _ _ hblocks => exact free_of_update hblocks hd
  | issued _ _ _ _ _ hblocks => exact free_of_update hblocks hd
  | unissued _ _ _ _ _ hblocks => exact free_of_update hblocks hd

/-- A watcher that has just been registered has its new block. -/
theorem Begins.not_dangling {s s' : IocpWorld} {x y : PdWatcher Addr} {e : Addr}
    (h : Begins s s' a x e) (hy : s'.heap a = some y) (hpd : y.platformData = some d) :
    s'.sys.blocks d ≠ none := by
  obtain rfl := Option.some.inj (h.live.symm.trans hy)
  obtain rfl := Option.some.inj (h.data.symm.trans hpd)
  rcases h.block with ⟨-, hb, -⟩ | ⟨-, hb, -⟩ <;>
  · rw [hb]
    exact Option.some_ne_none _

/-- What a registration that fails leaves in `platform_data`. -/
theorem register_platformData (hne : (iocpWatcherRegister k a w env).code ≠ .ok) :
    if firstReadRefused k w env then
      ∃ d, k.calloc env.dataAlloc = some d ∧
        (iocpWatcherRegister k a w env).platformData = some d
    else (iocpWatcherRegister k a w env).platformData = none ∨
      (iocpWatcherRegister k a w env).platformData = w.platformData := by
  unfold iocpWatcherRegister registerOn firstReadRefused at *
  cases hd : k.calloc env.dataAlloc with
  | none => simp
  | some d =>
      rw [hd] at hne
      have hset : ((k.touch d).setBlock d (newData w.events)).isOpen = k.isOpen ∧
          ((k.touch d).setBlock d (newData w.events)).assoc = k.assoc := by
        simp [IocpSys.setBlock]
      dsimp only at hne ⊢
      simp only [IocpSys.associate, hset] at hne ⊢
      cases hopen : k.isOpen (fdToHandle w.fd) with
      | false => simp
      | true =>
          cases hassoc : k.assoc (fdToHandle w.fd) with
          | some b => simp
          | none =>
              cases href : env.refusedAssociate with
              | some e => simp
              | none =>
                  -- the handle has been associated
                  cases hread : w.events.has .read with
                  | false => simp [hopen, hassoc, href, hread] at hne
                  | true =>
                      cases hrefused : env.refusedRead with
                      | some e => simp [IocpSys.issueRead, hopen]
                      | none =>
                          simp [IocpSys.issueRead, hopen, hassoc, href, hread, hrefused] at hne

end Backend

/-! ### What a step preserves -/

/-- The watchers have blocks of their own, and these are allocated. -/
structure Sound (s : IocpWorld) : Prop where
  apart : Apart s
  safe : DataSafe s

section Runs

variable {s s' : IocpWorld} {c : Call IocpEnv} {a d : Addr} {x : PdWatcher Addr} {env : IocpEnv}

theorem Sound.block (h : Sound s) (hd : Names s a d) : s.sys.blocks d ≠ none :=
  fun hnone => h.safe.allocated a ⟨d, hd, hnone⟩

theorem Sound.held {w : PdWatcher Addr} (h : Sound s) (hx : s.heap a = some x)
    (hw : w.platformData = x.platformData) : Held s.sys w :=
  fun _ hpd => h.block ⟨x, hx, hw ▸ hpd⟩

/-- A watcher is active once `pd_watcher_start` has returned `PD_OK`. -/
theorem active_of_start_ok (hx : s.heap a = some x)
    (hok : (pdWatcherStart iocpOps s a env).2 = .ok) :
    ∃ y, (pdWatcherStart iocpOps s a env).1.heap a = some y ∧ y.active = true := by
  cases hact : x.active with
  | true =>
      rw [start_of_active env hx hact]
      exact ⟨x, hx, hact⟩
  | false =>
      by_cases hr : (iocpWatcherRegister s.sys a { x with active := true } env).code = .ok
      · rw [start_of_ok hx hact rfl hr]
        exact ⟨_, World.setWatcher_heap_self .., rfl⟩
      · rw [start_of_ne_ok hx hact rfl hr] at hok
        exact absurd hok hr

/-- A `pd_watcher_start` that fails leaves the pointer of before, or `NULL`, unless the first
read is refused: then it leaves the freed block. -/
theorem start_names (hx : s.heap a = some x) (hact : x.active = false)
    (hne : (pdWatcherStart iocpOps s a env).2 ≠ .ok) :
    if firstReadRefused s.sys x env then Dangles (pdWatcherStart iocpOps s a env).1 a
    else ∀ d, Names (pdWatcherStart iocpOps s a env).1 a d → x.platformData = some d := by
  by_cases hok : (iocpWatcherRegister s.sys a { x with active := true } env).code = .ok
  · rw [start_of_ok hx hact rfl hok] at hne
    exact absurd rfl hne
  · have hreg := register_platformData hok
    have hregistered : Registered s.sys a { x with active := true } env _ := registered_register
    obtain ⟨-, hblocks, -⟩ := hregistered.of_ne_ok hok
    rw [start_of_ne_ok hx hact rfl hok]
    change if firstReadRefused s.sys x env then _ else _ at hreg
    split_ifs at hreg ⊢ with hrefused
    · obtain ⟨d, hd, hpd⟩ := hreg
      refine ⟨d, ⟨_, World.setWatcher_heap_self .., hpd⟩, ?_⟩
      exact (congrFun hblocks d).trans (IocpSys.calloc_eq_some hd).2
    · rintro d ⟨y, hy, hpd⟩
      obtain rfl := Option.some.inj ((World.setWatcher_heap_self ..).symm.trans hy)
      rcases hreg with hnone | hsame
      · exact nomatch hnone.symm.trans hpd
      · exact hsame.symm.trans hpd

/-- The watcher of a call does not name freed memory after it. -/
theorem CallAt.not_dangles (hat : CallAt s (s.exec iocpOps c).1 c a) (h : Sound s)
    (hc : startRefused s c = false) : ¬Dangles (s.exec iocpOps c).1 a := by
  rintro ⟨d, ⟨y, hy, hpd⟩, hnone⟩
  cases hat with
  | kept hheap hblocks =>
      have hd : Names s a d := ⟨y, hheap.symm.trans hy, hpd⟩
      exact h.block hd ((hblocks d hd).symm.trans hnone)
  | destroyed _ hgone => exact nomatch hgone.symm.trans hy
  | unlisted _ _ _ hgone => exact nomatch hgone.symm.trans hy
  | created _ _ hb => exact hb.not_dangling hy hpd hnone
  | started _ _ _ _ hb => exact hb.not_dangling hy hpd hnone
  | @unstarted x _ env hstart hx hact hheap _ hblocks =>
      subst hstart
      have hcode : (pdWatcherStart iocpOps s a env).2 ≠ .ok := by
        intro hok
        obtain ⟨z, hz, hzact⟩ := active_of_start_ok hx hok
        obtain rfl := Option.some.inj (hheap.symm.trans hz)
        exact nomatch hzact
      have hnames := start_names hx hact hcode
      have hread : firstReadRefused s.sys x env = false := by
        simpa [startRefused, hx, hact] using hc
      rw [hread] at hnames
      have hold := hnames d ⟨y, hy, hpd⟩
      exact h.block ⟨x, hx, hold⟩ ((congrFun hblocks d).symm.trans hnone)
  | stoppedDangling _ hx _ hold hfree => exact h.block ⟨_, hx, hold⟩ hfree
  | deferred _ hx _ hold _ _ hheap hblocks =>
      obtain rfl := Option.some.inj (hheap.symm.trans hy)
      obtain rfl := Option.some.inj (hold.symm.trans hpd)
      rw [hblocks, Function.update_self] at hnone
      exact nomatch hnone
  | freed _ _ _ _ _ _ _ hheap =>
      obtain rfl := Option.some.inj (hheap.symm.trans hy)
      exact nomatch hpd
  | updated _ hx _ hheap hupd hsys =>
      obtain rfl := Option.some.inj (hheap.symm.trans hy)
      rw [hsys] at hnone
      exact h.block ⟨_, hx, hpd⟩ (hupd.free hnone)

/-- Nor does any other watcher. -/
theorem Sound.not_dangles_exec (h : Sound s) (hc : startRefused s c = false) (b : Addr) :
    ¬Dangles (s.exec iocpOps c).1 b := by
  obtain ⟨a, honly, hat⟩ := callAt_exec s c
  rcases eq_or_ne b a with rfl | hb
  · exact hat.not_dangles h hc
  · rintro ⟨d, ⟨x, hx, hpd⟩, hnone⟩
    have hd : Names s b d := ⟨x, (honly.heap b hb).symm.trans hx, hpd⟩
    obtain ⟨blk, hblk⟩ := Option.ne_none_iff_exists'.1 (h.block hd)
    have hkept := honly.blocks d blk hblk fun ha => hb (h.apart.distinct _ _ _ hd ha)
    exact nomatch hnone.symm.trans hkept

theorem Sound.apart_exec (h : Sound s) : Apart (s.exec iocpOps c).1 :=
  h.apart.exec_of_new fun _ _ _ hnone hd => h.block hd hnone

theorem Sound.fault_stop (h : Sound s) (a : Addr) :
    (pdWatcherStop iocpOps s a).1.sys.fault = false := by
  refine World.stop_invariant (P := fun t : IocpWorld => t.sys.fault = false)
    (fun _ => h.safe.unread) fun x r hx _ hr => ?_
  subst hr
  have hheld : Held s.sys { x with active := false } := h.held hx rfl
  exact (hheld.unregister_fault (a := a)).trans h.safe.unread

/-- No call reads freed platform data. -/
theorem Sound.fault_exec (h : Sound s) : (s.exec iocpOps c).1.sys.fault = false := by
  refine World.exec_invariant (P := fun t : IocpWorld => t.sys.fault = false) c
    (fun _ => h.safe.unread) ?_ ?_ ?_ ?_ ?_ ?_ ?_
  · -- a creation is refused by the backend
    intro a w env r hreg _ _ _ hr _
    exact (register_fault hreg hr).trans h.safe.unread
  · -- the list cannot grow, and the block that is given up is the new one
    intro a w env r u hreg _ _ _ hr hok _ _ hu
    subst hu
    have hheld := (registered_of_register hreg hr).held hok
    exact hheld.unregister_fault.trans ((register_fault hreg hr).trans h.safe.unread)
  · -- a new watcher
    intro a w env r loop hreg _ _ _ hr _ _
    exact (register_fault hreg hr).trans h.safe.unread
  · intro a x env r _ _ _ hr
    subst hr
    exact registerOn_fault.trans h.safe.unread
  · intro a x events env r _ hx _ hr
    subst hr
    have hheld : Held s.sys { x with events } := h.held hx rfl
    exact (hheld.update_fault (a := a)).trans h.safe.unread
  · intro a x r _ hx _ hr
    subst hr
    have hheld : Held s.sys { x with active := false } := h.held hx rfl
    exact (hheld.unregister_fault (a := a)).trans h.safe.unread
  · -- the block is released once, by the stop or by the cleanup
    intro a x _ hx
    have hlive : ((pdWatcherStop iocpOps s a).1.heap a).isSome = true := by
      rw [sameWatchers_stop.live_eq, hx]
      rfl
    obtain ⟨y, hy⟩ := Option.isSome_iff_exists.1 hlive
    rw [cleanup_of_some hy rfl]
    have hheld : Held (pdWatcherStop iocpOps s a).1.sys y := fun d hpd hnone =>
      h.not_dangles_exec (c := .stop a) rfl a ⟨d, ⟨y, hy, hpd⟩, hnone⟩
    exact hheld.unregister_fault.trans (h.fault_stop a)

theorem Sound.exec (h : Sound s) (hc : startRefused s c = false) : Sound (s.exec iocpOps c).1 :=
  ⟨h.apart_exec, h.not_dangles_exec hc, h.fault_exec⟩

/-- The watchers stay, and no block is freed. -/
theorem Sound.of_kept (h : Sound s) (hapart : Apart s') (hheap : s'.heap = s.heap)
    (hblocks : ∀ d, s'.sys.blocks d = none → s.sys.blocks d = none)
    (hfault : s'.sys.fault = s.sys.fault) : Sound s' := by
  refine ⟨hapart, ?_, hfault.trans h.safe.unread⟩
  rintro a ⟨d, ⟨x, hx, hpd⟩, hnone⟩
  exact h.block ⟨x, (congrFun hheap a).symm.trans hx, hpd⟩ (hblocks d hnone)

/-- The backend's state changes, and the blocks that are allocated stay so. -/
theorem Sound.setSys {k : IocpSys} (h : Sound s)
    (hblocks : ∀ d, k.blocks d = none → s.sys.blocks d = none)
    (hfault : k.fault = s.sys.fault) : Sound (s.setSys k) :=
  h.of_kept (h.apart.setSys k) rfl hblocks hfault

theorem Sound.takeUp_fault (h : Sound s) (p : Packet) : (takeUp s p).1.sys.fault = false := by
  cases p with
  | sync => exact h.safe.unread
  | timer fires => exact h.safe.unread
  | wake => exact h.safe.unread
  | io a o n =>
      unfold takeUp
      dsimp only
      split_ifs
      · exact h.safe.unread
      · cases hx : s.heap a with
        | none => exact h.safe.unread
        | some x =>
            dsimp only
            split_ifs
            · exact h.safe.unread
            · cases hpd : x.platformData with
              | none => exact h.safe.unread
              | some d =>
                  dsimp only
                  cases hb : s.sys.blocks d with
                  | none => exact absurd hb (h.block ⟨x, hx, hpd⟩)
                  | some b =>
                      dsimp only
                      split_ifs <;> exact h.safe.unread

/-- A packet may lead to a block being freed, and then its watcher gives it up. -/
theorem Sound.takeUp (h : Sound s) (p : Packet) : Sound (takeUp s p).1 := by
  have hfault := h.takeUp_fault p
  have hkept : (Iocp.takeUp s p).1.heap = s.heap →
      (∀ d, (Iocp.takeUp s p).1.sys.blocks d = none → s.sys.blocks d = none) →
      Sound (Iocp.takeUp s p).1 :=
    fun hheap hblocks =>
      h.of_kept (h.apart.takeUp p) hheap hblocks (hfault.trans h.safe.unread.symm)
  cases (takenUp_takeUp s p).1 with
  | ignored hheap hblocks => exact hkept hheap fun d hnone => hblocks ▸ hnone
  | cancelled _ _ _ _ _ _ _ _ hheap hblocks => exact hkept hheap fun _ => free_of_update hblocks
  | completed _ _ _ _ _ _ _ _ hheap hblocks => exact hkept hheap fun _ => free_of_update hblocks
  | @released a d o n x b _ _ hx _ hpd _ _ hheap hblocks =>
      refine ⟨h.apart.takeUp p, ?_, hfault⟩
      rintro b ⟨e, ⟨y, hy, hpe⟩, hnone⟩
      rw [hheap] at hy
      rcases eq_or_ne b a with rfl | hb
      · rw [Function.update_self] at hy
        obtain rfl := Option.some.inj hy
        exact nomatch hpe
      · rw [Function.update_of_ne hb] at hy
        have hd : e ≠ d := by
          rintro rfl
          exact hb (h.apart.distinct _ _ _ ⟨y, hy, hpe⟩ ⟨x, hx, hpd⟩)
        rw [hblocks, Function.update_of_ne hd] at hnone
        exact h.block ⟨y, hy, hpe⟩ hnone

theorem Sound.rearm_fault (h : Sound s) (refused : Option WinError) (f : Frame) :
    (rearm s refused f).1.sys.fault = false := by
  cases f with
  | timer => exact h.safe.unread
  | write a => exact h.safe.unread
  | read a events n =>
      unfold rearm
      dsimp only
      cases hx : s.heap a with
      | none => exact h.safe.unread
      | some x =>
          dsimp only
          cases hpd : x.platformData with
          | none => exact h.safe.unread
          | some d =>
              dsimp only
              split_ifs
              · cases hb : s.sys.blocks d with
                | none => exact absurd hb (h.block ⟨x, hx, hpd⟩)
                | some b =>
                    dsimp only
                    split_ifs
                    · exact h.safe.unread
                    · split
                      · exact touch_fault.trans h.safe.unread
                      · rename_i k hissue
                        exact ((issueRead_fault hissue).trans touch_fault).trans h.safe.unread
              · exact h.safe.unread

theorem Sound.rearm (h : Sound s) (refused : Option WinError) (f : Frame) :
    Sound (rearm s refused f).1 := by
  obtain ⟨hrearmed, hheap⟩ := rearmed_rearm s refused f
  refine h.of_kept (h.apart.rearm refused f) hheap (fun d hnone => ?_)
    ((h.rearm_fault refused f).trans h.safe.unread.symm)
  cases hrearmed with
  | nothing hblocks => exact hblocks ▸ hnone
  | issued _ _ _ _ _ _ _ _ hblocks => exact free_of_update hblocks hnone
  | unissued _ _ _ _ _ _ _ _ hblocks => exact free_of_update hblocks hnone

end Runs

variable {s s' : State} {l : Step}

theorem sound_init (h : Init s) : Sound s.world := by
  obtain ⟨-, -, hheap, -, -, -, -, hfault, -⟩ := id h
  refine ⟨apart_init h, ?_, hfault⟩
  rintro a ⟨d, ⟨x, hx, -⟩, -⟩
  exact nomatch (hheap a).symm.trans hx

theorem sound_step (h : Sound s.world)
    (hok : ∀ c, l = .call c → startRefused s.world c = false) (hstep : step s l = some s') :
    Sound s'.world := by
  have hsys : ∀ k : IocpSys, k.blocks = s.world.sys.blocks → k.fault = s.world.sys.fault →
      Sound (s.world.setSys k) :=
    fun k hblocks => h.setSys fun d hnone => hblocks ▸ hnone
  cases stepped_of_step hstep with
  | call => exact h.exec (hok _ rfl)
  | @drainRead a len x hx =>
      refine h.setSys (fun d hnone => ?_) ((h.held hx rfl).drainRead_fault len)
      rw [drainRead_blocks] at hnone
      exact Option.map_eq_none_iff.1 hnone
  | openHandle => exact hsys _ rfl rfl
  | closeHandle => exact hsys _ rfl rfl
  | clientWrite => exact hsys _ rfl rfl
  | complete =>
      refine h.setSys (fun d hnone => ?_) (complete_fault ..)
      rw [complete_blocks] at hnone
      exact Option.map_eq_none_iff.1 hnone
  | post => exact hsys _ rfl rfl
  | wait => exact hsys _ rfl rfl
  | waitFailed => exact hsys _ rfl rfl
  | done => exact h
  | @next p port => exact (hsys (s.world.sys.setPort port) rfl rfl).takeUp p
  | ret => exact h.rearm _ _

/-- The step is not a `pd_watcher_start` whose first read is refused. -/
def Step.Started (s : State) : Step → Prop
  | .call c => startRefused s.world c = false
  | _ => True

instance (s : State) (l : Step) : Decidable (l.Started s) := by
  cases l <;> unfold Step.Started <;> infer_instance

/-- **As long as no `pd_watcher_start` has its first read refused, no watcher names freed
platform data, and none is read, whatever fails otherwise; and a `pd_watcher_start` that fails
leaves a pointer to freed memory exactly if its first read is refused.** -/
theorem data_safe (hr : iocpRuns.Reach (fun s l => l.Started s) s) :
    DataSafe s.world ∧ ∀ a env, (pdWatcherStart iocpOps s.world a env).2 ≠ .ok →
      (Dangles (pdWatcherStart iocpOps s.world a env).1 a ↔
        startRefused s.world (.start a env) = true) := by
  have hsound : Sound s.world := by
    refine hr.invariant (I := fun s => Sound s.world) (fun _ => sound_init) ?_
    intro s l s' hi hok hnext
    refine sound_step hi (fun c hc => ?_) hnext
    subst hc
    exact hok
  refine ⟨hsound.safe, fun a env hne => ?_⟩
  constructor
  · intro hdangles
    by_contra hno
    exact hsound.not_dangles_exec (c := .start a env) (Bool.eq_false_iff.2 hno) a hdangles
  · intro hyes
    cases hx : s.world.heap a with
    | none => simp [startRefused, hx] at hyes
    | some x =>
        simp only [startRefused, hx, Option.any_some, Bool.and_eq_true, Bool.not_eq_true'] at hyes
        have hnames := start_names hx hyes.1 hne
        rwa [if_pos hyes.2] at hnames

/-- The watcher is stopped while its read is in flight, and started again on a handle that is
still associated. -/
def restartAssociated : List Step :=
  [.openHandle 4, createReader, .call (.stop 100), .call (.start 100 ⟨some 201, none, none, 0⟩),
    .drainRead 100 1]

theorem restartAssociated_safe : ∃ s,
    Machine.runGuarded Step.Started step iocpLoopCreate restartAssociated = some s ∧
      DataSafe s.world := by
  have hrun : ∃ s, Machine.runGuarded Step.Started step iocpLoopCreate restartAssociated = some s :=
    ⟨_, rfl⟩
  obtain ⟨s, hrun⟩ := hrun
  exact ⟨s, hrun, (data_safe (.runGuarded (.init init_iocpLoopCreate) hrun)).1⟩

/-- The handle is closed in between and its number reused, and the first read is refused. -/
def restartRefused : List Step :=
  [.openHandle 4, createReader, .call (.stop 100), .closeHandle 4, .openHandle 4,
    .call (.start 100 ⟨some 201, none, some 10054, 0⟩)]

/-- A `pd_watcher_start` that fails can leave a pointer to freed memory, and the next
`pd_watcher_drain_read` reads it. -/
theorem not_data_safe : (¬∀ s, iocpRuns.Reachable s → ∀ a, ¬Dangles s.world a) ∧
    ¬∀ s, iocpRuns.Reachable s → s.world.sys.fault = false := by
  have hr : ∀ {ls s}, Machine.run step iocpLoopCreate ls = some s → iocpRuns.Reachable s :=
    fun hrun => Machine.Reach.run (.init init_iocpLoopCreate) hrun
  constructor
  · intro h
    have hrun : ∃ s, Machine.run step iocpLoopCreate restartRefused = some s ∧
        Dangles s.world 100 :=
      ⟨_, rfl, 201, ⟨_, rfl, rfl⟩, rfl⟩
    obtain ⟨s, hrun, hdangles⟩ := hrun
    exact h s (hr hrun) 100 hdangles
  · intro h
    have hrun : ∃ s, Machine.run step iocpLoopCreate
        (restartRefused ++ [.drainRead 100 1]) = some s ∧ s.world.sys.fault = true :=
      ⟨_, rfl, rfl⟩
    obtain ⟨s, hrun, hfault⟩ := hrun
    exact nomatch hfault.symm.trans (h s (hr hrun))

end Iocp
end PollDancer
