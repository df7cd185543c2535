/-
# Stopping and starting again

`pd_watcher_stop` followed by `pd_watcher_start` should leave the kernel as it was.  What
the stop takes away and what the start brings back are computed from different things:

* epoll deletes by the record of the watcher and adds by its mask, so a watcher whose
  record another registration has evicted keeps its membership and cannot join again;
* kqueue deletes and adds the filters of the mask, and leaves alone those that an earlier
  mask had added;
* IOCP has nothing that undoes an association, so the start fails.
-/
import PollDancer.Epoll.World
import PollDancer.Iocp.Association
import PollDancer.Kqueue.Filters
import PollDancer.Kqueue.Update

namespace PollDancer

/-! ### epoll -/

namespace Epoll

variable {s : EpollWorld} {a : Addr} {w : PdWatcher EpollWatcherData} {env : EpollEnv}

/-- There is memory, and the kernel refuses nothing that it could do. -/
def EpollEnv.Grants (env : EpollEnv) : Prop :=
  env.dataAlloc = true ∧ env.refused = none ∧ env.growTable = true

/-- Stopped and started again, the watcher has its membership back. -/
def Restores (s : EpollWorld) (a : Addr) (w : PdWatcher EpollWatcherData) (env : EpollEnv) :
    Prop :=
  let r := pdWatcherStart epollOps (pdWatcherStop epollOps s a).1 a env
  r.2 = .ok ∧ r.1.sys.kernel.interest w.fd = s.sys.kernel.interest w.fd

/-- The watcher has its record, and the membership of its mask. -/
def Registered (s : EpollWorld) (a : Addr) (w : PdWatcher EpollWatcherData) : Prop :=
  (view s).HasRecord a ∧ s.sys.kernel.interest w.fd = some (membership a w)

/-- What a registration needs where the kernel refuses nothing. -/
theorem register_granted {k : EpollSys} (hd : k.data.isSome = true) (hg : env.Grants)
    (hopen : k.kernel.isOpen w.fd = true) (hnone : k.kernel.interest w.fd = none) :
    (epollWatcherRegister k a w env).code = .ok := by
  obtain ⟨d, hd⟩ := Option.isSome_iff_exists.1 hd
  obtain ⟨halloc, hrefused, hgrow⟩ := hg
  exact register_of_room hd halloc hrefused hopen hnone (.inl hgrow)

/-- A watcher without a record keeps its membership when it is stopped, and if it has none
gets one when it is started. -/
theorem not_restores_of_no_record (hs : Attached s) (hw : s.heap a = some w)
    (hact : w.active = true) (hno : ¬(view s).HasRecord a) : ¬Restores s a w env := by
  rintro ⟨hok, hsame⟩
  obtain ⟨hs', hcases⟩ := stop_cases hs hw
  rcases hcases with ⟨hinact, -⟩ | ⟨-, -, -, hv⟩ | ⟨-, hstuck, -⟩ | ⟨-, hrec, -⟩
  · exact nomatch hact.symm.trans hinact
  · have hk : (pdWatcherStop epollOps s a).1.sys.kernel = s.sys.kernel := congrArg View.kernel hv
    have hw' : (pdWatcherStop epollOps s a).1.heap a = some (stopped w) :=
      (congrFun (congrArg View.heap hv) a).trans (Function.update_self ..)
    rcases (start_cases env hs' hw').2 with
      ⟨hyes, -⟩ | ⟨-, -, hne, -⟩ | ⟨-, -, hne, -⟩ | ⟨-, -, -, hnone, hv'⟩
    · exact nomatch hyes
    · exact hne hok
    · exact hne hok
    · -- the membership is new
      have hnew := congrFun (congrArg (fun v => v.kernel.interest) hv') w.fd
      have hset := hnew.symm.trans hsame
      rw [hk] at hnone
      exact nomatch (hset.trans hnone).symm.trans (Kernel.setInterest_interest_self ..)
  · exact hno hstuck.1
  · exact hno hrec

/-- **A stop and a start restore the membership of a watcher exactly if it has its record and
the membership of its mask.** -/
theorem restores_iff (hs : Attached s) (hw : s.heap a = some w) (hact : w.active = true)
    (hopen : s.sys.kernel.isOpen w.fd = true) (hg : env.Grants)
    (hstop : (pdWatcherStop epollOps s a).2 = .ok) : Restores s a w env ↔ Registered s a w := by
  obtain ⟨hs', hcases⟩ := stop_cases hs hw
  rcases hcases with ⟨hinact, -⟩ | ⟨-, hno, -, -⟩ | ⟨-, -, hne, -⟩ | ⟨-, hrec, -, -, hv⟩
  · exact nomatch hact.symm.trans hinact
  · exact iff_of_false (not_restores_of_no_record hs hw hact hno) fun h => hno h.1
  · exact nomatch hne.symm.trans hstop
  · have hk : (pdWatcherStop epollOps s a).1.sys.kernel = s.sys.kernel.setInterest w.fd none :=
      (congrArg View.kernel hv).trans (Kernel.release_of_open hopen)
    have hw' : (pdWatcherStop epollOps s a).1.heap a = some (stopped w) :=
      (congrFun (congrArg View.heap hv) a).trans (Function.update_self ..)
    have hcode : (epollOps.watcherRegister (pdWatcherStop epollOps s a).1.sys a
        { stopped w with active := true } env).code = .ok :=
      register_granted hs' hg (by rw [hk]; exact hopen)
        (by rw [hk]; exact Kernel.setInterest_interest_self ..)
    have hok : (pdWatcherStart epollOps (pdWatcherStop epollOps s a).1 a env).2 = .ok := by
      rw [start_of_ok hw' rfl rfl hcode]
    rcases (start_cases env hs' hw').2 with
      ⟨hyes, -⟩ | ⟨-, -, hne, -⟩ | ⟨-, -, hne, -⟩ | ⟨-, -, -, -, hv'⟩
    · exact nomatch hyes
    · exact absurd hok hne
    · exact absurd hok hne
    · have hnew : (pdWatcherStart epollOps (pdWatcherStop epollOps s a).1 a
          env).1.sys.kernel.interest w.fd = some (membership a w) :=
        (congrFun (congrArg (fun v => v.kernel.interest) hv') w.fd).trans
          (Kernel.setInterest_interest_self ..)
      exact ⟨fun h => ⟨hrec, h.2.symm.trans hnew⟩, fun h => ⟨hok, hnew.trans h.2.symm⟩⟩

end Epoll

/-! ### kqueue -/

namespace Kqueue

variable {s : KqueueWorld} {a : Addr} {w : PdWatcher KqueueWatcherData} {env : KqueueEnv}

/-- There is memory, and the kernel refuses nothing that it could do. -/
def KqueueEnv.Grants (env : KqueueEnv) : Prop :=
  env.dataAlloc = true ∧ env.refusedRead = none ∧ env.refusedWrite = none ∧ env.growTable = true

/-- Stopped and started again, the watcher's descriptor has the filters that it had. -/
def Restores (s : KqueueWorld) (a : Addr) (w : PdWatcher KqueueWatcherData) (env : KqueueEnv) :
    Prop :=
  let r := pdWatcherStart kqueueOps (pdWatcherStop kqueueOps s a).1 a env
  r.2 = .ok ∧ r.1.sys.kernel.knotes w.fd = s.sys.kernel.knotes w.fd

/-- The filters that the mask asks for are those of the watcher, with the trigger of the
mask. -/
def Armed (s : KqueueWorld) (a : Addr) (w : PdWatcher KqueueWatcherData) : Prop :=
  ∀ f, asks w.events f = true →
    s.sys.kernel.knotes w.fd f = some ⟨a, true, w.events.has .edge⟩

/-- A registration on an open descriptor arms it where nothing is refused. -/
theorem register_granted {k : KqueueSys} (hd : k.data.isSome = true) (hg : env.Grants)
    (hopen : k.kernel.isOpen w.fd = true) :
    (kqueueWatcherRegister k a w env).code = .ok ∧
      (kqueueWatcherRegister k a w env).sys.kernel = k.kernel.arm w.fd w.events a := by
  obtain ⟨d, hd'⟩ := Option.isSome_iff_exists.1 hd
  obtain ⟨halloc, hread, hwrite, hgrow⟩ := hg
  have hrej : k.kernel.rejects w.fd w.events env = false := by
    simp [Kernel.rejects, hopen, hread, hwrite]
  have hok : (kqueueWatcherRegister k a w env).code = .ok := by
    have hadds := k.kernel.kevent_adds w.fd w.events a env
    rw [adds] at hadds
    rcases hadds with ⟨-, hk⟩ | ⟨hyes, -⟩ | ⟨hyes, -⟩
    · unfold kqueueWatcherRegister
      rw [hd']
      simp only [halloc, hk, hgrow, Bool.not_true, Bool.false_eq_true, if_false, if_true]
      split <;> rfl
    · exact absurd (hrej.symm.trans hyes) Bool.false_ne_true
    · exact absurd (hrej.symm.trans hyes) Bool.false_ne_true
  refine ⟨hok, ?_⟩
  rcases registers k a w env with
    ⟨-, hne, -⟩ | ⟨-, -, -, hne, -⟩ | ⟨-, -, -, hne, -⟩ | ⟨-, -, hne, -⟩ | ⟨-, -, -, hk, -⟩
  · exact absurd hok hne
  · exact absurd hok hne
  · exact absurd hok hne
  · exact absurd hok hne
  · exact hk

/-- What a stop does to the kernel: it takes away filters that the mask asks for. -/
theorem stop_kernel (hd : s.sys.data.isSome = true) (hw : s.heap a = some w)
    (hact : w.active = true) :
    (pdWatcherStop kqueueOps s a).1.sys.data.isSome = true ∧
    (pdWatcherStop kqueueOps s a).1.sys.kernel.isOpen = s.sys.kernel.isOpen ∧
    ∀ f, asks w.events f = false →
      (pdWatcherStop kqueueOps s a).1.sys.kernel.knotes w.fd f = s.sys.kernel.knotes w.fd f := by
  have hsys : (pdWatcherStop kqueueOps s a).1.sys =
      (kqueueWatcherUnregister s.sys a { w with active := false }).sys := by
    by_cases hok : (kqueueOps.watcherUnregister s.sys a { w with active := false }).code = .ok
    · rw [stop_of_ok hw hact rfl hok]
      rfl
    · rw [stop_of_ne_ok hw hact rfl hok]
      rfl
  rw [hsys, unregister_disarms]
  refine ⟨(unregister_cases hd rfl).1, ?_, fun f hf => ?_⟩
  · split <;> rfl
  · split
    · rw [Kernel.disarm_self]
      simp [Kernel.reached, hf]
    · rfl

/-- **A stop and a start restore the filters of a watcher exactly if those that its mask asks
for were there before**: they are there afterwards, and the others stay. -/
theorem restores_iff (hd : s.sys.data.isSome = true) (hw : s.heap a = some w)
    (hact : w.active = true) (hopen : s.sys.kernel.isOpen w.fd = true) (hg : env.Grants)
    (hstop : (pdWatcherStop kqueueOps s a).2 = .ok) : Restores s a w env ↔ Armed s a w := by
  obtain ⟨hd', hopen', hothers⟩ := stop_kernel hd hw hact
  obtain ⟨x, hx, hinact, hfd, hev, -⟩ := stop_keeps hw hstop
  obtain ⟨hcode, hkernel⟩ := register_granted (a := a) (w := { x with active := true }) hd' hg
    (by rw [hopen', hfd]; exact hopen)
  have hreg : (kqueueOps.watcherRegister (pdWatcherStop kqueueOps s a).1.sys a
      { x with active := true } env).code = .ok := hcode
  have hstart := start_of_ok hx hinact rfl hreg
  have hok : (pdWatcherStart kqueueOps (pdWatcherStop kqueueOps s a).1 a env).2 = .ok := by
    rw [hstart]
  have hknotes : ∀ f, (pdWatcherStart kqueueOps (pdWatcherStop kqueueOps s a).1 a
      env).1.sys.kernel.knotes w.fd f =
        if asks w.events f then some ⟨a, true, w.events.has .edge⟩
        else s.sys.kernel.knotes w.fd f := by
    intro f
    have hsys : (pdWatcherStart kqueueOps (pdWatcherStop kqueueOps s a).1 a env).1.sys.kernel =
        (pdWatcherStop kqueueOps s a).1.sys.kernel.arm w.fd w.events a := by
      rw [hstart, ← hfd, ← hev]
      exact hkernel
    rw [hsys, Kernel.arm_self]
    cases hf : asks w.events f with
    | false => exact hothers f hf
    | true => rfl
  constructor
  · rintro ⟨-, hsame⟩ f hf
    rw [← congrFun hsame f, hknotes f, if_pos hf]
  · intro harmed
    refine ⟨hok, funext fun f => ?_⟩
    rw [hknotes f]
    split
    · exact (harmed f ‹_›).symm
    · rfl

end Kqueue

/-! ### IOCP, and the three together -/

/-- Stopped and started again, the watcher has a read outstanding exactly when its mask asks
for reads. -/
def Iocp.Restores (s : Iocp.IocpWorld) (a : Addr) (w : PdWatcher Addr) (env : Iocp.IocpEnv) :
    Prop :=
  let r := pdWatcherStart Iocp.iocpOps (pdWatcherStop Iocp.iocpOps s a).1 a env
  r.2 = .ok ∧ ∃ x d, r.1.heap a = some x ∧ x.platformData = some d ∧
    (0 < r.1.sys.outstanding d ↔ w.events.has .read = true)

/-- There is memory, and the kernel refuses nothing that it could do. -/
def Iocp.Grants (s : Iocp.IocpWorld) (env : Iocp.IocpEnv) : Prop :=
  (s.sys.calloc env.dataAlloc).isSome = true ∧ env.refusedAssociate = none ∧
    env.refusedRead = none

/-- **What a stop and a start restore**: on epoll the membership of a watcher that has its
record and the membership of its mask, on kqueue the filters of a descriptor that has those
the mask asks for, on IOCP nothing while the socket stays open. -/
theorem stop_start_restores_iff (a : Addr) :
    (∀ (s : Epoll.EpollWorld) w env, Epoll.Attached s → s.heap a = some w → w.active = true →
      s.sys.kernel.isOpen w.fd = true → Epoll.EpollEnv.Grants env →
      (pdWatcherStop Epoll.epollOps s a).2 = .ok →
      (Epoll.Restores s a w env ↔ Epoll.Registered s a w)) ∧
    (∀ (s : Kqueue.KqueueWorld) w env, s.sys.data.isSome = true → s.heap a = some w →
      w.active = true → s.sys.kernel.isOpen w.fd = true → Kqueue.KqueueEnv.Grants env →
      (pdWatcherStop Kqueue.kqueueOps s a).2 = .ok →
      (Kqueue.Restores s a w env ↔ Kqueue.Armed s a w)) ∧
    (∀ (s : Iocp.State) w env, Iocp.iocpRuns.Reach (Iocp.KeepsOpen a) s →
      s.world.heap a = some w → w.active = true →
      (w.isHandle = true → s.world.sys.isOpen (Iocp.fdToHandle w.fd) = false) →
      (pdWatcherStop Iocp.iocpOps s.world a).2 = .ok → ¬Iocp.Restores s.world a w env) :=
  ⟨fun _ _ _ hs hw hact hopen hg hok => Epoll.restores_iff hs hw hact hopen hg hok,
    fun _ _ _ hd hw hact hopen hg hok => Kqueue.restores_iff hd hw hact hopen hg hok,
    fun _ _ env hr hw _ hno hok h => Iocp.restart_refused env hr hw hno hok h.1⟩

/-- A second registration of descriptor 5 is refused, and has evicted the record of the
first. -/
def evictedRecord : Epoll.EpollWorld :=
  Epoll.performAll (Epoll.epollLoopCreate 3 fun fd => fd == 5)
    [Epoll.createAt 100 5, Epoll.createAt 200 5]

/-- A watcher for reads whose mask has become writes. -/
def remasked : Kqueue.KqueueWorld :=
  Kqueue.updateAll Kqueue.reader 100 [(.write, Kqueue.answers)]

/-- No other watcher is active on the descriptor. -/
def SoleWatcher {κ δ : Type} (s : World κ δ) (a : Addr) (fd : ℤ) : Prop :=
  ∀ b x, s.heap b = some x → b ≠ a → x.active = true → x.fd ≠ fd

/-- On no backend does a stop and a start restore what every watcher had. -/
theorem not_stop_start_restores :
    (¬∀ (s : Epoll.EpollWorld) a w env, Epoll.runs.Reachable s → s.heap a = some w →
      w.active = true → s.sys.kernel.isOpen w.fd = true → SoleWatcher s a w.fd →
      Epoll.EpollEnv.Grants env → (pdWatcherStop Epoll.epollOps s a).2 = .ok →
      Epoll.Restores s a w env) ∧
    (¬∀ (s : Kqueue.KqueueWorld) a w env, Kqueue.runs.Reachable s → s.heap a = some w →
      w.active = true → s.sys.kernel.isOpen w.fd = true → SoleWatcher s a w.fd →
      Kqueue.KqueueEnv.Grants env → (pdWatcherStop Kqueue.kqueueOps s a).2 = .ok →
      Kqueue.Restores s a w env) ∧
    (¬∀ (s : Iocp.State) a w env, Iocp.iocpRuns.Reachable s → s.world.heap a = some w →
      w.active = true → s.world.sys.isOpen (Iocp.fdToHandle w.fd) = true →
      SoleWatcher s.world a w.fd → Iocp.Grants (pdWatcherStop Iocp.iocpOps s.world a).1 env →
      (pdWatcherStop Iocp.iocpOps s.world a).2 = .ok → Iocp.Restores s.world a w env) := by
  refine ⟨fun h => ?_, fun h => ?_, fun h => ?_⟩
  · have hr : Epoll.runs.Reachable evictedRecord := Epoll.reach_performAll (.init ⟨3, _, rfl⟩) _ rfl
    have hothers : ∀ b, b ≠ 100 → evictedRecord.heap b = none :=
      fun b hb => Function.update_of_ne hb ..
    have hrestored := h evictedRecord 100 _ ⟨true, none, true⟩ hr rfl rfl rfl
      (fun b x hx hb => nomatch (hothers b hb).symm.trans hx) ⟨rfl, rfl, rfl⟩ rfl
    exact nomatch hrestored.1
  · have hr : Kqueue.runs.Reachable remasked := .step
      (a := .call (.update 100 .write Kqueue.answers)) Kqueue.reader_reachable trivial rfl
    have hothers : ∀ b, b ≠ 100 → remasked.heap b = none := fun b hb =>
      (Function.update_of_ne hb ..).trans (Function.update_of_ne hb ..)
    have hrestored := h remasked 100 _ Kqueue.answers hr rfl rfl rfl
      (fun b x hx hb => nomatch (hothers b hb).symm.trans hx) ⟨rfl, rfl, rfl, rfl⟩ rfl
    exact nomatch congrFun hrestored.2 .write
  · obtain ⟨s, w, hrun, hw, hact, hopen, hothers, hok, hgrants, hfails⟩ : ∃ s w,
        Library.Machine.run Iocp.step Iocp.iocpLoopCreate [.openHandle 4, Iocp.createReader] =
          some s ∧ s.world.heap 100 = some w ∧ w.active = true ∧
        s.world.sys.isOpen (Iocp.fdToHandle w.fd) = true ∧
        (∀ b, b ≠ 100 → s.world.heap b = none) ∧
        (pdWatcherStop Iocp.iocpOps s.world 100).2 = .ok ∧
        Iocp.Grants (pdWatcherStop Iocp.iocpOps s.world 100).1 ⟨some 300, none, none, 0⟩ ∧
        (pdWatcherStart Iocp.iocpOps (pdWatcherStop Iocp.iocpOps s.world 100).1 100
          ⟨some 300, none, none, 0⟩).2 ≠ .ok :=
      ⟨_, _, rfl, rfl, rfl, rfl, fun b hb => Function.update_of_ne hb .., rfl, ⟨rfl, rfl, rfl⟩,
        nofun⟩
    exact hfails (h s 100 w _ (.run (.init Iocp.init_iocpLoopCreate) hrun) hw hact hopen
      (fun b x hx hb => nomatch (hothers b hb).symm.trans hx) hgrants hok).1

/-- A watcher for reads on epoll and one on kqueue get back what they had; one on IOCP cannot
be started again. -/
theorem readers_restored :
    (∃ w, Epoll.Restores (Epoll.performAll (Epoll.epollLoopCreate 3 fun fd => fd == 5)
      [Epoll.createAt 100 5]) 100 w ⟨true, none, true⟩) ∧
    (∃ w, Kqueue.Restores Kqueue.reader 100 w Kqueue.answers) ∧
    ∃ (s : Iocp.State) (w : PdWatcher Addr), s.world.heap 100 = some w ∧
      ¬Iocp.Restores s.world 100 w ⟨some 300, none, none, 0⟩ := by
  obtain ⟨he, hk, hi⟩ := stop_start_restores_iff 100
  refine ⟨?_, ?_, ?_⟩
  · have hiff := he (Epoll.performAll (Epoll.epollLoopCreate 3 fun fd => fd == 5)
      [Epoll.createAt 100 5]) _ ⟨true, none, true⟩ rfl rfl rfl rfl ⟨rfl, rfl, rfl⟩ rfl
    exact ⟨_, hiff.2 ⟨⟨⟨5, 100⟩, List.mem_cons_self, rfl⟩, rfl⟩⟩
  · have hiff := hk Kqueue.reader _ Kqueue.answers rfl rfl rfl rfl ⟨rfl, rfl, rfl, rfl⟩ rfl
    refine ⟨_, hiff.2 fun f hf => ?_⟩
    cases f with
    | read => rfl
    | write => exact nomatch hf
    | timer => exact nomatch (Kqueue.asks_timer _).symm.trans hf
    | user => exact nomatch (Kqueue.asks_user _).symm.trans hf
  · have hinit : Iocp.iocpRuns.Reach (Iocp.KeepsOpen 100) Iocp.iocpLoopCreate :=
      .init Iocp.init_iocpLoopCreate
    have hopen : Iocp.iocpRuns.Reach (Iocp.KeepsOpen 100) _ :=
      .step (a := .openHandle 4) hinit trivial rfl
    have hcreate : Iocp.iocpRuns.Reach (Iocp.KeepsOpen 100) _ :=
      .step (a := Iocp.createReader) hopen trivial rfl
    exact ⟨_, _, rfl, hi _ _ _ hcreate rfl rfl nofun rfl⟩

end PollDancer
