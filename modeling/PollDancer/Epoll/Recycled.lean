/-
# Updating a watcher whose descriptor was recycled

`epoll_watcher_unregister` looks for the watcher's own record before it deletes by
descriptor number.  `epoll_watcher_update` has no such test: its `EPOLL_CTL_MOD` goes
to the number, with the watcher as `data.ptr`.  When the descriptor of an active
watcher is closed and the number is registered again for another watcher, an update
of the first one takes the membership of the second over.

`Undisputed` says that no two active watchers stand behind one membership.  The only
step that ends it is a registration on a number that another active watcher still
has, so updates spare the memberships of all other watchers exactly in the runs
without such a registration (`updates_spare_others_iff`).
-/
import PollDancer.Epoll.Ownership
import PollDancer.Lifecycle

namespace PollDancer
namespace Epoll

open Library

/-- The call makes the descriptor a member for the watcher: a creation or a start that
succeeds. -/
inductive Joins (s : EpollWorld) : Action → Addr → ℤ → Prop
  | create {fd : ℤ} {events : PdEvent} {callback : Option Callback} {userData : Addr}
      {env : CallEnv EpollEnv} {b : Addr} :
      (pdWatcherCreate epollOps s fd events callback userData env).2 = some b →
      Joins s (.call (.create fd events callback userData env)) b fd
  | start {b : Addr} {w : PdWatcher EpollWatcherData} {env : EpollEnv} :
      s.heap b = some w → w.active = false → (pdWatcherStart epollOps s b env).2 = .ok →
      Joins s (.call (.start b env)) b w.fd

/-- A registration goes to a descriptor number that no other active watcher has. -/
def Vacant (s : EpollWorld) (act : Action) : Prop :=
  ∀ b fd, Joins s act b fd → ∀ a w, s.heap a = some w → w.active = true → a ≠ b → w.fd ≠ fd

/-- No update changes the membership of a descriptor that belongs to another watcher. -/
def UpdatesSpare (s : EpollWorld) : Prop :=
  ∀ a events env, SparesOthers s a (pdWatcherUpdate epollOps s a events env).1

/-- The membership of an active watcher's descriptor is its own. -/
structure Undisputed (v : View) : Prop where
  owner : ∀ a w, v.heap a = some w → w.active = true → ∀ ev, v.kernel.interest w.fd = some ev →
    ev.ptr = a
  data : ∀ a w, v.heap a = some w → w.active = true →
    ∃ wd, w.platformData = some wd ∧ wd.epollEvent.ptr = a

namespace Undisputed

variable {v : View} {a : Addr} {w : PdWatcher EpollWatcherData} {table : List Registration}
  {kernel : Kernel}

/-- Memberships may end, and the table plays no part. -/
theorem shrink (h : Undisputed v)
    (hk : ∀ fd ev, kernel.interest fd = some ev → v.kernel.interest fd = some ev) :
    Undisputed (v.setReg table kernel) :=
  ⟨fun a w hw hact ev hev => h.owner a w hw hact ev (hk _ ev hev), h.data⟩

/-- Neither does the watcher list. -/
theorem setOccupied (h : Undisputed v) (l : List Addr) : Undisputed (v.setOccupied l) :=
  ⟨h.owner, h.data⟩

/-- A watcher is freed, or written back stopped. -/
theorem retire (h : Undisputed v) {x : Option (PdWatcher EpollWatcherData)}
    (hx : ∀ y, x = some y → y.active = false) : Undisputed (v.setHeap a x) := by
  have hne : ∀ b y, (v.setHeap a x).heap b = some y → y.active = true → v.heap b = some y := by
    intro b y hy hact
    rcases v.heap_of_setHeap hy with ⟨-, hxy⟩ | ⟨-, hy⟩
    · exact nomatch (hx y hxy).symm.trans hact
    · exact hy
  exact ⟨fun b y hy hact => h.owner b y (hne b y hy hact) hact,
    fun b y hy hact => h.data b y (hne b y hy hact) hact⟩

/-- A membership and its watcher are written together, and no other active watcher has the
descriptor. -/
theorem join (h : Undisputed v) {events : UInt32}
    (hpd : ∃ wd, w.platformData = some wd ∧ wd.epollEvent.ptr = a)
    (hfree : ∀ b y, v.heap b = some y → y.active = true → b ≠ a → y.fd ≠ w.fd) :
    Undisputed ((v.setHeap a (some w)).setReg table
      (v.kernel.setInterest w.fd (some ⟨events, a⟩))) where
  owner b y hy hact ev hev := by
    rcases v.heap_of_setHeap (show (v.setHeap a (some w)).heap b = some y from hy) with
      ⟨rfl, hx⟩ | ⟨hne, hy⟩
    · obtain rfl := Option.some.inj hx
      obtain rfl := Option.some.inj ((Kernel.setInterest_interest_self ..).symm.trans hev)
      rfl
    · have hfd := hfree b y hy hact hne
      exact h.owner b y hy hact ev ((Kernel.setInterest_interest_ne _ _ hfd).symm.trans hev)
  data b y hy hact := by
    rcases v.heap_of_setHeap (show (v.setHeap a (some w)).heap b = some y from hy) with
      ⟨rfl, hx⟩ | ⟨-, hy⟩
    · obtain rfl := Option.some.inj hx
      exact hpd
    · exact h.data b y hy hact

/-- An active watcher is written back with its descriptor, and no membership changes. -/
theorem rewrite (h : Undisputed v) {x : PdWatcher EpollWatcherData} (hw : v.heap a = some w)
    (hact : w.active = true) (hfd : x.fd = w.fd)
    (hpd : ∃ wd, x.platformData = some wd ∧ wd.epollEvent.ptr = a) :
    Undisputed (v.setHeap a (some x)) where
  owner b y hy hyact ev hev := by
    rcases v.heap_of_setHeap hy with ⟨rfl, hx⟩ | ⟨-, hy⟩
    · obtain rfl := Option.some.inj hx
      exact h.owner b w hw hact ev (hfd ▸ hev)
    · exact h.owner b y hy hyact ev hev
  data b y hy hyact := by
    rcases v.heap_of_setHeap hy with ⟨rfl, hx⟩ | ⟨-, hy⟩
    · obtain rfl := Option.some.inj hx
      exact hpd
    · exact h.data b y hy hyact

end Undisputed

section Steps

variable {s : EpollWorld} {a : Addr} {w : PdWatcher EpollWatcherData}

theorem undisputed_stop (hs : Attached s) (h : Undisputed (view s)) (hw : s.heap a = some w) :
    Attached (pdWatcherStop epollOps s a).1 ∧ Undisputed (view (pdWatcherStop epollOps s a).1) := by
  obtain ⟨hs', hcases⟩ := stop_cases hs hw
  refine ⟨hs', ?_⟩
  have hstopped : ∀ y, some (stopped w) = some y → y.active = false := by
    intro y hy
    obtain rfl := Option.some.inj hy
    rfl
  rcases hcases with ⟨-, heq⟩ | ⟨-, -, -, hv⟩ | ⟨-, -, -, hv⟩ | ⟨-, -, -, -, hv⟩
  · rw [heq]
    exact h
  · rw [hv]
    exact h.retire hstopped
  · rw [hv]
    exact h
  · rw [hv]
    exact (h.retire hstopped).shrink fun _ _ => Kernel.interest_of_release

/-- The end of `pd_watcher_destroy` ends memberships and frees the watcher. -/
theorem undisputed_cleanup (hs : Attached s) (h : Undisputed (view s)) (hw : s.heap a = some w)
    (ha : a ≠ NULL) :
    Attached ((pdWatcherCleanup epollOps s a).free a) ∧
      Undisputed (view ((pdWatcherCleanup epollOps s a).free a)) := by
  obtain ⟨hs', hcases⟩ := cleanup_cases hs hw ha
  have hfreed : Undisputed ((view s).setHeap a none) := h.retire nofun
  refine ⟨hs', ?_⟩
  rcases hcases with ⟨-, hv⟩ | ⟨-, hv⟩ | ⟨-, -, hv⟩
  · rw [hv]
    exact (hfreed.shrink fun _ _ hev => hev).setOccupied _
  · rw [hv]
    exact (hfreed.shrink fun _ _ hev => hev).setOccupied _
  · rw [hv]
    exact (hfreed.shrink fun _ _ => Kernel.interest_of_release).setOccupied _

theorem undisputed_destroy (hs : Attached s) (h : Undisputed (view s)) (hw : s.heap a = some w)
    (ha : a ≠ NULL) :
    Attached (pdWatcherDestroy epollOps s a) ∧
      Undisputed (view (pdWatcherDestroy epollOps s a)) := by
  obtain ⟨hs', h'⟩ := undisputed_stop hs h hw
  have hlive : ((pdWatcherStop epollOps s a).1.heap a).isSome = true := by
    rw [sameWatchers_stop.live_eq, hw]
    rfl
  obtain ⟨x, hx⟩ := Option.isSome_iff_exists.1 hlive
  rw [pdWatcherDestroy, hw]
  exact undisputed_cleanup hs' h' hx ha

theorem undisputed_start (env : EpollEnv) (hs : Attached s) (h : Undisputed (view s))
    (hw : s.heap a = some w) (hok : Vacant s (.call (.start a env))) :
    Attached (pdWatcherStart epollOps s a env).1 ∧
      Undisputed (view (pdWatcherStart epollOps s a env).1) := by
  obtain ⟨hs', hcases⟩ := start_cases env hs hw
  refine ⟨hs', ?_⟩
  rcases hcases with ⟨-, heq⟩ | ⟨-, -, -, hv⟩ | ⟨-, -, -, hv⟩ | ⟨hact, hcode, -, -, hv⟩
  · rw [heq]
    exact h
  · rw [hv]
    exact h
  · rw [hv]
    exact h.shrink fun _ _ hev => hev
  · rw [hv]
    exact h.join (w := started a w) ⟨_, rfl, rfl⟩ (hok a w.fd (.start hw hact hcode))

theorem undisputed_create (fd : ℤ) (events : PdEvent) (callback : Option Callback)
    (userData : Addr) (env : CallEnv EpollEnv) (hs : Attached s) (h : Undisputed (view s))
    (hok : Vacant s (.call (.create fd events callback userData env))) :
    Attached (pdWatcherCreate epollOps s fd events callback userData env).1 ∧
      Undisputed (view (pdWatcherCreate epollOps s fd events callback userData env).1) := by
  obtain ⟨hs', hcases⟩ := create_cases fd events callback userData env hs
  refine ⟨hs', ?_⟩
  rcases hcases with
    ⟨-, heq⟩ | ⟨a, -, ⟨-, -, hv⟩ | ⟨-, -, hv⟩ | ⟨-, -, -, hv⟩ | ⟨-, hcode, -, -, hv⟩⟩
  · rw [heq]
    exact h
  · rw [hv]
    exact h
  · rw [hv]
    exact h.shrink fun _ _ hev => hev
  · rw [hv]
    exact h.shrink fun _ _ hev => hev
  · rw [hv]
    exact (h.join (w := started a (newWatcher fd events callback userData)) ⟨_, rfl, rfl⟩
      (hok a fd (.create hcode))).setOccupied _

/-- An update rewrites a membership that is the watcher's own. -/
theorem undisputed_update (events : PdEvent) (env : EpollEnv) (hs : Attached s)
    (h : Undisputed (view s)) (hw : s.heap a = some w) :
    Attached (pdWatcherUpdate epollOps s a events env).1 ∧
      Undisputed (view (pdWatcherUpdate epollOps s a events env).1) := by
  obtain ⟨hs', hcases⟩ := update_cases' events env hs hw
  refine ⟨hs', ?_⟩
  rcases hcases with
    ⟨-, heq⟩ | ⟨hact, hpd, -⟩ | ⟨wd, hact, hpd, -, hv⟩ | ⟨wd, hact, hpd, -, hmem, hv⟩
  · rw [heq]
    exact h
  · obtain ⟨wd, hwd, -⟩ := h.data a w hw hact
    exact nomatch hpd.symm.trans hwd
  · obtain ⟨wd', hwd, hptr⟩ := h.data a w hw hact
    obtain rfl := Option.some.inj (hpd.symm.trans hwd)
    rw [hv]
    exact h.rewrite hw hact rfl ⟨_, rfl, hptr⟩
  · obtain ⟨wd', hwd, hptr⟩ := h.data a w hw hact
    obtain rfl := Option.some.inj (hpd.symm.trans hwd)
    obtain ⟨old, hold⟩ := Option.isSome_iff_exists.1 hmem
    rw [hv, hptr]
    refine h.join (w := updated w events ⟨eventsToEpoll events, a⟩) ⟨_, rfl, rfl⟩ ?_
    -- whoever else were active on the descriptor would own the old membership too
    intro b y hy hyact hne hfd
    have hb := h.owner b y hy hyact old (by rw [hfd]; exact hold)
    exact hne (hb.symm.trans (h.owner a w hw hact old hold))

/-- What one step preserves. -/
theorem undisputed_perform {act : Action} (hs : Attached s) (h : Undisputed (view s))
    (hl : Listed s) (hok : Vacant s act) :
    Attached (perform s act) ∧ Undisputed (view (perform s act)) := by
  cases act with
  | closeFd fd =>
      refine ⟨hs, ?_⟩
      rw [perform, view_closeFd]
      refine h.shrink fun fd' ev hev => ?_
      rcases eq_or_ne fd' fd with rfl | hne
      · rw [Kernel.close_interest_self] at hev
        exact absurd hev.symm (Option.some_ne_none ev)
      · rwa [Kernel.close_interest_ne _ hne] at hev
  | openFd fd =>
      refine ⟨hs, ?_⟩
      rw [perform, view_openFd]
      exact h.shrink fun _ _ hev => hev
  | call c =>
      have hdead : ∀ a, c.target = some a → s.heap a = none →
          Attached (perform s (.call c)) ∧ Undisputed (view (perform s (.call c))) := by
        intro a ha hw
        rw [perform, World.exec_of_not_live ha hw]
        exact ⟨hs, h⟩
      cases c with
      | create fd events callback userData env =>
          exact undisputed_create fd events callback userData env hs h hok
      | createForHandle handle events callback userData env =>
          rw [perform, World.exec, epoll_createForHandle]
          exact ⟨hs, h⟩
      | update a events env =>
          cases hw : s.heap a with
          | none => exact hdead a rfl hw
          | some w => exact undisputed_update events env hs h hw
      | stop a =>
          cases hw : s.heap a with
          | none => exact hdead a rfl hw
          | some w => exact undisputed_stop hs h hw
      | start a env =>
          cases hw : s.heap a with
          | none => exact hdead a rfl hw
          | some w => exact undisputed_start env hs h hw hok
      | destroy a =>
          cases hw : s.heap a with
          | none => exact hdead a rfl hw
          | some w => exact undisputed_destroy hs h hw (hl.ne_null a (by rw [hw]; rfl))

theorem listed_perform (h : Listed s) (act : Action) : Listed (perform s act) := by
  cases act with
  | call c => exact h.exec c
  | closeFd fd => exact ⟨h.nodup, h.mem_occupied, h.ne_null⟩
  | openFd fd => exact ⟨h.nodup, h.mem_occupied, h.ne_null⟩

/-- What a run without a registration on a number in use preserves. -/
theorem undisputed_of_reach (h : runs.Reach Vacant s) :
    Attached s ∧ Undisputed (view s) ∧ Listed s := by
  refine h.invariant (I := fun s => Attached s ∧ Undisputed (view s) ∧ Listed s) ?_ ?_
  · rintro s ⟨eventfd, isOpen, rfl⟩
    refine ⟨attached_create eventfd isOpen, ⟨fun _ _ hw => ?_, fun _ _ hw => ?_⟩, .nil,
      fun a => ?_, fun _ ha => ?_⟩
    · exact nomatch hw
    · exact nomatch hw
    · simp [epollLoopCreate, PdLoop.create, PdLoop.occupied]
    · exact absurd ha Bool.false_ne_true
  · rintro s act s' ⟨hs, h, hl⟩ hok hnext
    rw [runs_next hnext]
    obtain ⟨hs', h'⟩ := undisputed_perform hs h hl hok
    exact ⟨hs', h', listed_perform hl act⟩

/-- Where no membership is disputed, an update changes that of its own watcher only. -/
theorem Undisputed.updatesSpare (hs : Attached s) (h : Undisputed (view s)) : UpdatesSpare s := by
  intro a events env fd ev hev hne _
  cases hw : s.heap a with
  | none =>
      rw [pdWatcherUpdate, hw]
      exact hev
  | some w =>
      rcases (update_cases' events env hs hw).2 with
        ⟨-, heq⟩ | ⟨-, -, hv⟩ | ⟨wd, -, -, -, hv⟩ | ⟨wd, hact, -, -, -, hv⟩
      · rw [heq]
        exact hev
      · exact (congrFun (congrArg (fun v => v.kernel.interest) hv) fd).trans hev
      · exact (congrFun (congrArg (fun v => v.kernel.interest) hv) fd).trans hev
      · have hfd : fd ≠ w.fd := by
          rintro rfl
          exact hne (h.owner a w hw hact ev hev)
        refine (congrFun (congrArg (fun v => v.kernel.interest) hv) fd).trans ?_
        exact (Kernel.setInterest_interest_ne _ _ hfd).trans hev

/-- What a registration leaves behind: the watcher is live, and the membership of the open
descriptor is its own; the other watchers are as they were. -/
theorem Joins.member {act : Action} {b : Addr} {fd : ℤ} (hs : Attached s) (h : Joins s act b fd) :
    Attached (perform s act) ∧ ((perform s act).heap b).isSome ∧
      (perform s act).sys.kernel.isOpen fd = true ∧
      (∃ ev, (perform s act).sys.kernel.interest fd = some ev ∧ ev.ptr = b) ∧
      ∀ a, a ≠ b → (perform s act).heap a = s.heap a := by
  have hview : ∀ {v : View}, view (perform s act) = v →
      (perform s act).heap = v.heap ∧ (perform s act).sys.kernel = v.kernel :=
    fun hv => ⟨congrArg View.heap hv, congrArg View.kernel hv⟩
  cases h with
  | @create _ events callback userData env _ hcode =>
      obtain ⟨hs', hcases⟩ := create_cases fd events callback userData env hs
      refine ⟨hs', ?_⟩
      rcases hcases with
        ⟨-, heq⟩ | ⟨a, -, ⟨-, hno, -⟩ | ⟨-, hno, -⟩ | ⟨-, hno, -⟩ | ⟨-, hyes, ho, -, hv⟩⟩
      · rw [heq] at hcode
        exact nomatch hcode
      · exact nomatch hno.symm.trans hcode
      · exact nomatch hno.symm.trans hcode
      · exact nomatch hno.symm.trans hcode
      · obtain rfl := Option.some.inj (hyes.symm.trans hcode)
        obtain ⟨hh, hk⟩ := hview hv
        rw [hh, hk]
        refine ⟨by simp [View.setReg], ho, ⟨_, Kernel.setInterest_interest_self .., rfl⟩, ?_⟩
        exact fun c hc => View.setHeap_heap_ne _ _ hc
  | @start _ w env hw hact hcode =>
      obtain ⟨hs', hcases⟩ := start_cases env hs hw
      refine ⟨hs', ?_⟩
      rcases hcases with ⟨hyes, -⟩ | ⟨-, -, hno, -⟩ | ⟨-, -, hno, -⟩ | ⟨-, -, ho, -, hv⟩
      · exact absurd (hact.symm.trans hyes) Bool.false_ne_true
      · exact absurd hcode hno
      · exact absurd hcode hno
      · obtain ⟨hh, hk⟩ := hview hv
        rw [hh, hk]
        refine ⟨by simp [View.setReg], ho, ⟨_, Kernel.setInterest_interest_self .., rfl⟩, ?_⟩
        exact fun c hc => View.setHeap_heap_ne _ _ hc

/-- A watcher that is active on the descriptor of another one's membership takes it over with
its next update. -/
theorem not_updatesSpare_of_disputed {b : Addr} {ev : EpollEvent} (hs : Attached s)
    (hw : s.heap a = some w) (hact : w.active = true)
    (hpd : ∃ wd, w.platformData = some wd ∧ wd.epollEvent.ptr = a)
    (ho : s.sys.kernel.isOpen w.fd = true) (hev : s.sys.kernel.interest w.fd = some ev)
    (hb : ev.ptr = b) (hlive : (s.heap b).isSome) (hne : a ≠ b) : ¬UpdatesSpare s := by
  intro hspare
  obtain ⟨wd, hwd, hptr⟩ := hpd
  have hkept := hspare a .none ⟨true, none, true⟩ w.fd ev hev (hb ▸ hne.symm) (hb ▸ hlive)
  rcases (update_cases' .none ⟨true, none, true⟩ hs hw).2 with
    ⟨hno, -⟩ | ⟨-, hno, -⟩ | ⟨_, -, -, hc | hn, -⟩ | ⟨wd', -, hwd', -, -, hv⟩
  · exact nomatch hact.symm.trans hno
  · exact nomatch hno.symm.trans hwd
  · exact nomatch ho.symm.trans hc
  · exact nomatch hn.symm.trans hev
  · obtain rfl := Option.some.inj (hwd.symm.trans hwd')
    have hnew := congrFun (congrArg (fun v => v.kernel.interest) hv) w.fd
    have hset := (hnew.symm.trans hkept).symm.trans (Kernel.setInterest_interest_self ..)
    obtain rfl := Option.some.inj hset
    exact hne (hptr.symm.trans hb)

/-- **An update spares the memberships of all other watchers** in every state of a run whose
registrations go to descriptor numbers that no other active watcher has; and the first
registration that does not ends it. -/
theorem updates_spare_others_iff (h : runs.Reach Vacant s) :
    UpdatesSpare s ∧ ∀ act, UpdatesSpare (perform s act) ↔ Vacant s act := by
  obtain ⟨hs, hu, hl⟩ := undisputed_of_reach h
  refine ⟨hu.updatesSpare hs, fun act => ⟨fun hspare b fd hjoin a w hw hact hne hfd => ?_,
    fun hok => ?_⟩⟩
  · obtain ⟨hs', hlive, ho, ⟨ev, hev, hptr⟩, hkeep⟩ := hjoin.member hs
    subst hfd
    exact not_updatesSpare_of_disputed hs' ((hkeep a hne).trans hw) hact (hu.data a w hw hact) ho
      hev hptr hlive hne hspare
  · obtain ⟨hs', hu'⟩ := undisputed_perform hs hu hl hok
    exact hu'.updatesSpare hs'

end Steps

/-- Descriptor 5 is closed under the watcher at 100, and its number is recycled for the
watcher at 200. -/
def recycled : EpollWorld :=
  performAll (epollLoopCreate 3 fun fd => fd == 5)
    [createAt 100 5, .closeFd 5, .openFd 5, createAt 200 5]

/-- An update of the watcher at 100 takes the membership of the watcher at 200. -/
theorem not_updates_spare_others : ¬∀ s, runs.Reachable s → UpdatesSpare s := by
  intro hall
  have hr : runs.Reachable recycled := reach_performAll (.init ⟨3, _, rfl⟩) _ rfl
  have hkept := hall recycled hr 100 .write ⟨true, none, true⟩ 5 ⟨EPOLLIN, 200⟩ (by decide)
    (by decide) (by decide)
  revert hkept
  decide

/-- The same, with the watcher at 100 stopped once its descriptor is closed. -/
def closedAndStopped : EpollWorld :=
  performAll (epollLoopCreate 3 fun fd => fd == 5)
    [createAt 100 5, .closeFd 5, .call (.stop 100), .openFd 5]

theorem closedAndStopped_inactive (a : Addr) (w : PdWatcher EpollWatcherData)
    (hw : closedAndStopped.heap a = some w) : w.active = false := by
  rcases eq_or_ne a 100 with rfl | ha
  · obtain rfl := Option.some.inj hw
    rfl
  · have hnone : closedAndStopped.heap a = none :=
      (Function.update_of_ne ha ..).trans (Function.update_of_ne ha ..)
    exact nomatch hnone.symm.trans hw

/-- There, the number goes to the watcher at 200 and no update disturbs it. -/
theorem closedAndStopped_spared : UpdatesSpare (perform closedAndStopped (createAt 200 5)) := by
  have hinit : runs.Reach Vacant (epollLoopCreate 3 fun fd => fd == 5) := .init ⟨3, _, rfl⟩
  have hcreate := Machine.Reach.step (a := createAt 100 5) hinit
    (fun _ _ _ _ _ hw => nomatch hw) rfl
  have hclose := Machine.Reach.step (a := .closeFd 5) hcreate (fun _ _ hj => nomatch hj) rfl
  have hstop := Machine.Reach.step (a := .call (.stop 100)) hclose (fun _ _ hj => nomatch hj) rfl
  have hopen : runs.Reach Vacant closedAndStopped :=
    .step (a := .openFd 5) hstop (fun _ _ hj => nomatch hj) rfl
  refine ((updates_spare_others_iff hopen).2 _).2 fun _ _ _ a w hw hact => ?_
  exact nomatch (closedAndStopped_inactive a w hw).symm.trans hact

end Epoll
end PollDancer
