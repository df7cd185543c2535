/-
# Records belong to the memberships they name

`epoll_watcher_unregister` looks for a record by watcher and then deletes by
descriptor number.  That is safe while every record names the membership of its
own watcher: `Owned`.  Closing descriptors, recycling their numbers, evictions and
failed deletions all keep `Owned`; what breaks it is a creation that is handed the
address of a freed watcher whose record an `ENOENT` has left in the table.  A later
search by address then finds the stale record.

With runs that never reuse such an address (`FreshAddress`), stopping and
destroying a watcher spare the memberships of all others
(`stop_destroy_spare_others`); without that, `not_spare_others` is a run in which
`pd_watcher_stop` removes another live watcher's membership.
-/
import PollDancer.Epoll.World

namespace PollDancer
namespace Epoll

open Library

/-- The table names watchers, descriptors and memberships that belong together. -/
structure Owned (v : View) : Prop where
  unique : Unique Registration.fd Registration.watcher v.table
  holder : ∀ r ∈ v.table, ∀ w, v.heap r.watcher = some w → w.fd = r.fd ∧ w.active = true
  member : ∀ r ∈ v.table, ∀ ev, v.kernel.interest r.fd = some ev → ev.ptr = r.watcher
  own : ∀ a w wd, v.heap a = some w → w.platformData = some wd → wd.epollEvent.ptr = a
  ne_null : ∀ a w, v.heap a = some w → a ≠ NULL

namespace Owned

variable {v : View} {a : Addr} {w : PdWatcher EpollWatcherData} {table : List Registration}
  {kernel : Kernel}

/-- A watcher without a record has nothing to keep in step with the table. -/
theorem setHeap (h : Owned v) (ha : a ≠ NULL)
    (hrec : ∀ r ∈ v.table, r.watcher = a → w.fd = r.fd ∧ w.active = true)
    (hpd : ∀ wd, w.platformData = some wd → wd.epollEvent.ptr = a) :
    Owned (v.setHeap a (some w)) where
  unique := h.unique
  holder := by
    intro r hr x hx
    rcases eq_or_ne r.watcher a with hra | hra
    · rw [hra, View.setHeap_heap_self] at hx
      obtain rfl := Option.some.inj hx
      exact hrec r hr hra
    · rw [View.setHeap_heap_ne _ _ hra] at hx
      exact h.holder r hr x hx
  member := h.member
  own := by
    intro b x wd hx hwd
    rcases eq_or_ne b a with rfl | hb
    · rw [View.setHeap_heap_self] at hx
      obtain rfl := Option.some.inj hx
      exact hpd wd hwd
    · rw [View.setHeap_heap_ne _ _ hb] at hx
      exact h.own b x wd hx hwd
  ne_null := by
    intro b x hx
    rcases eq_or_ne b a with rfl | hb
    · exact ha
    · rw [View.setHeap_heap_ne _ _ hb] at hx
      exact h.ne_null b x hx

/-- Freeing a watcher leaves at most a record of a watcher that is gone. -/
theorem free (h : Owned v) (a : Addr) : Owned (v.setHeap a none) := by
  have hne : ∀ {b x}, (v.setHeap a none).heap b = some x → v.heap b = some x := by
    intro b x hx
    rcases eq_or_ne b a with rfl | hb
    · rw [View.setHeap_heap_self] at hx
      exact nomatch hx
    · rwa [View.setHeap_heap_ne _ _ hb] at hx
  exact ⟨h.unique, fun r hr x hx => h.holder r hr x (hne hx), h.member,
    fun b x wd hx => h.own b x wd (hne hx), fun b x hx => h.ne_null b x (hne hx)⟩

/-- The watcher list plays no part. -/
theorem setOccupied (h : Owned v) (l : List Addr) : Owned (v.setOccupied l) :=
  ⟨h.unique, h.holder, h.member, h.own, h.ne_null⟩

/-- Records and memberships may disappear independently of each other. -/
theorem shrink (h : Owned v) (hu : Unique Registration.fd Registration.watcher table)
    (hsub : ∀ r ∈ table, r ∈ v.table)
    (hk : ∀ r ∈ table, ∀ ev, kernel.interest r.fd = some ev → v.kernel.interest r.fd = some ev) :
    Owned (v.setReg table kernel) where
  unique := hu
  holder r hr := h.holder r (hsub r hr)
  member r hr ev hev := h.member r (hsub r hr) ev (hk r hr ev hev)
  own := h.own
  ne_null := h.ne_null

theorem evict (h : Owned v) (fd : ℤ) (a : Addr) :
    Owned (v.setReg (evicted v.table fd a) v.kernel) :=
  h.shrink (h.unique.evictOther fd a) (fun _ hr => (h.unique.mem_evictOther.1 hr).1)
    fun _ _ _ hev => hev

/-- A watcher that gives up its record ends the membership of its own descriptor. -/
theorem release (h : Owned v) (a : Addr) (fd : ℤ) :
    Owned (v.setReg (dropped v.table a) (v.kernel.release fd)) := by
  refine h.shrink (h.unique.dropOwner a) (fun _ hr => (h.unique.mem_dropOwner.1 hr).1) ?_
  intro r _ ev hev
  unfold Kernel.release at hev
  split at hev
  · rcases eq_or_ne r.fd fd with rfl | hne
    · simp at hev
    · rwa [Kernel.setInterest_interest_ne _ _ hne] at hev
  · exact hev

/-- A registration: the eviction, the new record and the new membership. -/
theorem claim (h : Owned v) (hw : v.heap a = some w) (hact : w.active = true)
    (hfree : ¬v.HasRecord a) (events : UInt32) :
    Owned (v.setReg (evicted v.table w.fd a ++ [⟨w.fd, a⟩])
      (v.kernel.setInterest w.fd (some ⟨events, a⟩))) where
  unique := h.unique.claim rfl rfl fun y hy hya => hfree ⟨y, hy, hya⟩
  holder := by
    intro r hr x hx
    rcases List.mem_append.1 hr with hr | hr
    · exact h.holder r (h.unique.mem_evictOther.1 hr).1 x hx
    · obtain rfl := List.mem_singleton.1 hr
      obtain rfl := Option.some.inj (hw.symm.trans hx)
      exact ⟨rfl, hact⟩
  member := by
    intro r hr ev hev
    rcases List.mem_append.1 hr with hr | hr
    · obtain ⟨hrt, hro⟩ := h.unique.mem_evictOther.1 hr
      have hne : r.fd ≠ w.fd := fun hfd => hfree ⟨r, hrt, hro hfd⟩
      exact h.member r hrt ev ((Kernel.setInterest_interest_ne _ _ hne).symm.trans hev)
    · obtain rfl := List.mem_singleton.1 hr
      obtain rfl := Option.some.inj ((Kernel.setInterest_interest_self ..).symm.trans hev)
      rfl
  own := h.own
  ne_null := h.ne_null

/-- A watcher replaces the mask of a membership that is its own. -/
theorem remask (h : Owned v) (fd : ℤ) (events : UInt32)
    (hown : ∀ ev, v.kernel.interest fd = some ev → ev.ptr = a)
    (hmem : (v.kernel.interest fd).isSome) :
    Owned (v.setReg v.table (v.kernel.setInterest fd (some ⟨events, a⟩))) where
  unique := h.unique
  holder := h.holder
  member := by
    intro r hr ev hev
    obtain ⟨old, hold⟩ := Option.isSome_iff_exists.1 hmem
    rcases eq_or_ne r.fd fd with hfd | hne
    · rw [← hfd] at hold hown
      rw [hfd, View.setReg_kernel, Kernel.setInterest_interest_self] at hev
      obtain rfl := Option.some.inj hev
      exact (hown old hold).symm.trans (h.member r hr old hold)
    · exact h.member r hr ev ((Kernel.setInterest_interest_ne _ _ hne).symm.trans hev)
  own := h.own
  ne_null := h.ne_null

/-- The watcher a record names has that record's descriptor and is active. -/
theorem active_of_hasRecord (h : Owned v) (hw : v.heap a = some w) (hrec : v.HasRecord a) :
    w.active = true := by
  obtain ⟨r, hr, rfl⟩ := hrec
  exact (h.holder r hr w hw).2

theorem not_hasRecord_of_inactive (h : Owned v) (hw : v.heap a = some w)
    (hact : w.active = false) : ¬v.HasRecord a := by
  intro hrec
  rw [h.active_of_hasRecord hw hrec] at hact
  exact nomatch hact

end Owned
/-! ### Runs that do not reuse the address of a recorded watcher -/

/-- A creation is not handed the address of a freed watcher that the table still
names, and an update does not go through the membership of another watcher. -/
def FreshAddress (s : EpollWorld) : Action → Prop
  | .call (.create _ _ _ _ env) => ∀ a ∈ s.calloc env.calloc, ∀ r ∈ s.sys.table, r.watcher ≠ a
  | .call (.update a _ _) =>
      ∀ w ∈ s.heap a, w.active = true → ∀ ev ∈ s.sys.kernel.interest w.fd, ev.ptr = a
  | _ => True

instance (s : EpollWorld) (act : Action) : Decidable (FreshAddress s act) :=
  match act with
  | .call (.create ..) => inferInstanceAs (Decidable (∀ a ∈ s.calloc _, _))
  | .call (.update a ..) => inferInstanceAs (Decidable (∀ w ∈ s.heap a, _))
  | .call (.createForHandle ..) => inferInstanceAs (Decidable True)
  | .call (.stop _) => inferInstanceAs (Decidable True)
  | .call (.start ..) => inferInstanceAs (Decidable True)
  | .call (.destroy _) => inferInstanceAs (Decidable True)
  | .closeFd _ => inferInstanceAs (Decidable True)
  | .openFd _ => inferInstanceAs (Decidable True)

theorem owned_create (eventfd : ℤ) (isOpen : ℤ → Bool) :
    Owned (view (epollLoopCreate eventfd isOpen)) where
  unique := .nil
  holder := fun _ hr => nomatch hr
  member := fun _ hr => nomatch hr
  own := fun _ _ _ hw => nomatch hw
  ne_null := fun _ _ hw => nomatch hw

section Steps

variable {s : EpollWorld} {a : Addr} {w : PdWatcher EpollWatcherData}

theorem owned_stop (hs : Attached s) (h : Owned (view s)) (hw : s.heap a = some w) :
    Attached (pdWatcherStop epollOps s a).1 ∧ Owned (view (pdWatcherStop epollOps s a).1) := by
  have ha := h.ne_null a w hw
  obtain ⟨hs', hcases⟩ := stop_cases hs hw
  refine ⟨hs', ?_⟩
  rcases hcases with ⟨-, heq⟩ | ⟨-, hno, -, hv⟩ | ⟨-, -, -, hv⟩ | ⟨-, -, -, -, hv⟩
  · rw [heq]
    exact h
  · rw [hv]
    exact h.setHeap ha (fun r hr hra => absurd ⟨r, hr, hra⟩ hno) (fun _ hwd => nomatch hwd)
  · rw [hv]
    exact h
  · rw [hv]
    refine (h.release a w.fd).setHeap ha ?_ (fun _ hwd => nomatch hwd)
    intro r hr hra
    exact absurd hra (h.unique.mem_dropOwner.1 hr).2

theorem owned_start (env : EpollEnv) (hs : Attached s) (h : Owned (view s))
    (hw : s.heap a = some w) :
    Attached (pdWatcherStart epollOps s a env).1 ∧
      Owned (view (pdWatcherStart epollOps s a env).1) := by
  have ha := h.ne_null a w hw
  obtain ⟨hs', hcases⟩ := start_cases env hs hw
  refine ⟨hs', ?_⟩
  rcases hcases with ⟨-, heq⟩ | ⟨-, -, -, hv⟩ | ⟨-, -, -, hv⟩ | ⟨hact, -, -, -, hv⟩
  · rw [heq]
    exact h
  · rw [hv]
    exact h
  · rw [hv]
    exact h.evict w.fd a
  · have hno := h.not_hasRecord_of_inactive hw hact
    have hh : Owned ((view s).setHeap a (some (started a w))) := by
      refine h.setHeap ha (fun r hr hra => absurd ⟨r, hr, hra⟩ hno) ?_
      intro wd hwd
      obtain rfl := Option.some.inj hwd
      rfl
    rw [hv]
    exact hh.claim (View.setHeap_heap_self ..) rfl hno _

theorem owned_update (events : PdEvent) (env : EpollEnv) (hs : Attached s) (h : Owned (view s))
    (hw : s.heap a = some w)
    (hok : w.active = true → ∀ ev ∈ s.sys.kernel.interest w.fd, ev.ptr = a) :
    Attached (pdWatcherUpdate epollOps s a events env).1 ∧
      Owned (view (pdWatcherUpdate epollOps s a events env).1) := by
  have ha := h.ne_null a w hw
  have hrec : ∀ r ∈ (view s).table, r.watcher = a → w.fd = r.fd ∧ w.active = true := by
    rintro r hr rfl
    exact h.holder r hr w hw
  obtain ⟨hs', hcases⟩ := update_cases' events env hs hw
  refine ⟨hs', ?_⟩
  rcases hcases with ⟨-, heq⟩ | ⟨-, hpd, hv⟩ | ⟨wd, -, hpd, -, hv⟩ | ⟨wd, hact, hpd, -, hmem, hv⟩
  · rw [heq]
    exact h
  · rw [hv]
    exact h.setHeap ha hrec fun wd hwd => nomatch hpd.symm.trans hwd
  · rw [hv]
    refine h.setHeap ha hrec fun wd' hwd => ?_
    obtain rfl := Option.some.inj hwd
    exact h.own a w wd hw hpd
  · have hptr := h.own a w wd hw hpd
    have hh : Owned ((view s).setHeap a
        (some (updated w events ⟨eventsToEpoll events, wd.epollEvent.ptr⟩))) := by
      refine h.setHeap ha hrec fun wd' hwd => ?_
      obtain rfl := Option.some.inj hwd
      exact hptr
    rw [hv, hptr]
    rw [hptr] at hh
    exact hh.remask w.fd _ (fun ev hev => hok hact ev hev) hmem

theorem owned_destroy (hs : Attached s) (h : Owned (view s)) (hw : s.heap a = some w) :
    Attached (pdWatcherDestroy epollOps s a) ∧ Owned (view (pdWatcherDestroy epollOps s a)) := by
  obtain ⟨hs', hcases⟩ := destroy_cases hs hw (h.ne_null a w hw) h.unique
  refine ⟨hs', ?_⟩
  rcases hcases with ⟨-, hv⟩ | ⟨-, hv⟩ | ⟨-, -, hv⟩
  · rw [hv]
    exact (h.free a).setOccupied _
  · rw [hv]
    exact (h.free a).setOccupied _
  · rw [hv]
    exact ((h.release a w.fd).free a).setOccupied _

theorem owned_createWatcher (fd : ℤ) (events : PdEvent) (callback : Option Callback)
    (userData : Addr) (env : CallEnv EpollEnv) (hs : Attached s) (h : Owned (view s))
    (hok : ∀ a ∈ s.calloc env.calloc, ∀ r ∈ s.sys.table, r.watcher ≠ a) :
    Attached (pdWatcherCreate epollOps s fd events callback userData env).1 ∧
      Owned (view (pdWatcherCreate epollOps s fd events callback userData env).1) := by
  obtain ⟨hs', hcases⟩ := create_cases fd events callback userData env hs
  refine ⟨hs', ?_⟩
  rcases hcases with
    ⟨-, heq⟩ | ⟨a, hc, ⟨-, -, hv⟩ | ⟨-, -, hv⟩ | ⟨-, -, -, hv⟩ | ⟨-, -, -, -, hv⟩⟩
  · rw [heq]
    exact h
  · rw [hv]
    exact h
  · rw [hv]
    exact h.evict fd a
  · -- registered and given up again: what is left is the table after the eviction
    have hu : Unique Registration.fd Registration.watcher
        (evicted s.sys.table fd a ++ [⟨fd, a⟩]) :=
      h.unique.claim rfl rfl fun y hy => hok a hc y hy
    rw [hv]
    refine h.shrink (hu.dropOwner a) (fun r hr => ?_) fun _ _ _ hev => hev
    obtain ⟨hr, hne⟩ := hu.mem_dropOwner.1 hr
    rcases List.mem_append.1 hr with hr | hr
    · exact (h.unique.mem_evictOther.1 hr).1
    · obtain rfl := List.mem_singleton.1 hr
      exact absurd rfl hne
  · have hno : ¬(view s).HasRecord a := by
      rintro ⟨r, hr, hra⟩
      exact hok a hc r hr hra
    have hh : Owned ((view s).setHeap a
        (some (started a (newWatcher fd events callback userData)))) := by
      refine h.setHeap (World.calloc_eq_some.1 hc).2.1
        (fun r hr hra => absurd ⟨r, hr, hra⟩ hno) fun wd hwd => ?_
      obtain rfl := Option.some.inj hwd
      rfl
    rw [hv]
    exact (hh.claim (View.setHeap_heap_self ..) rfl hno _).setOccupied _

theorem owned_close (h : Owned (view s)) (fd : ℤ) : Owned (view (closeFd s fd)) := by
  rw [view_closeFd]
  refine h.shrink h.unique (fun _ hr => hr) ?_
  intro r _ ev hev
  rcases eq_or_ne r.fd fd with hfd | hne
  · rw [hfd, Kernel.close_interest_self] at hev
    exact nomatch hev
  · rwa [Kernel.close_interest_ne _ hne] at hev

theorem owned_open (h : Owned (view s)) (fd : ℤ) : Owned (view (openFd s fd)) := by
  rw [view_openFd]
  exact h.shrink h.unique (fun _ hr => hr) fun _ _ _ hev => hev

/-- What one action preserves. -/
theorem owned_perform {act : Action} (hs : Attached s) (h : Owned (view s))
    (hok : FreshAddress s act) : Attached (perform s act) ∧ Owned (view (perform s act)) := by
  cases act with
  | closeFd fd => exact ⟨hs, owned_close h fd⟩
  | openFd fd => exact ⟨hs, owned_open h fd⟩
  | call c =>
      have hdead : ∀ a, c.target = some a → s.heap a = none →
          Attached (perform s (.call c)) ∧ Owned (view (perform s (.call c))) := by
        intro a ha hw
        rw [perform, World.exec_of_not_live ha hw]
        exact ⟨hs, h⟩
      cases c with
      | create fd events callback userData env =>
          exact owned_createWatcher fd events callback userData env hs h hok
      | createForHandle handle events callback userData env =>
          rw [perform, World.exec, epoll_createForHandle]
          exact ⟨hs, h⟩
      | update a events env =>
          cases hw : s.heap a with
          | none => exact hdead a rfl hw
          | some w => exact owned_update events env hs h hw (hok w hw)
      | stop a =>
          cases hw : s.heap a with
          | none => exact hdead a rfl hw
          | some w => exact owned_stop hs h hw
      | start a env =>
          cases hw : s.heap a with
          | none => exact hdead a rfl hw
          | some w => exact owned_start env hs h hw
      | destroy a =>
          cases hw : s.heap a with
          | none => exact hdead a rfl hw
          | some w => exact owned_destroy hs h hw

/-- What a whole run preserves. -/
theorem owned_of_reach (h : runs.Reach FreshAddress s) : Attached s ∧ Owned (view s) := by
  refine h.invariant (I := fun s => Attached s ∧ Owned (view s)) ?_ ?_
  · rintro s ⟨eventfd, isOpen, rfl⟩
    exact ⟨attached_create eventfd isOpen, owned_create eventfd isOpen⟩
  · rintro s act s' ⟨hs, h⟩ hok hnext
    rw [runs_next hnext]
    exact owned_perform hs h hok

/-- Every membership of another live watcher is as it was before the call. -/
def SparesOthers (s : EpollWorld) (a : Addr) (s' : EpollWorld) : Prop :=
  ∀ fd ev, s.sys.kernel.interest fd = some ev → ev.ptr ≠ a → (s.heap ev.ptr).isSome →
    s'.sys.kernel.interest fd = some ev

/-- A watcher that gives up its record ends no membership but its own. -/
theorem spares_of_release {s' : EpollWorld} (h : Owned (view s)) (hw : s.heap a = some w)
    (hrec : (view s).HasRecord a) (hk : s'.sys.kernel = s.sys.kernel.release w.fd) :
    SparesOthers s a s' := by
  intro fd ev hev hne _
  obtain ⟨r, hr, rfl⟩ := hrec
  have hfd : fd ≠ w.fd := by
    rintro rfl
    rw [(h.holder r hr w hw).1] at hev
    exact hne (h.member r hr ev hev)
  rw [hk, Kernel.release_interest_ne _ hfd]
  exact hev

/-- **Stopping or destroying a watcher spares the memberships of all other live
watchers**, in every state of a run in which no creation is handed the address of a
freed watcher that still has a record. -/
theorem stop_destroy_spare_others (h : runs.Reach FreshAddress s) (hw : (s.heap a).isSome) :
    SparesOthers s a (pdWatcherStop epollOps s a).1 ∧
      SparesOthers s a (pdWatcherDestroy epollOps s a) := by
  obtain ⟨hs, ho⟩ := owned_of_reach h
  obtain ⟨w, hw⟩ := Option.isSome_iff_exists.1 hw
  have same : ∀ s', (view s').kernel = (view s).kernel → SparesOthers s a s' := by
    intro s' hk fd ev hev _ _
    exact (congrFun (congrArg Kernel.interest hk) fd).trans hev
  constructor
  · rcases (stop_cases hs hw).2 with ⟨-, heq⟩ | ⟨-, -, -, hv⟩ | ⟨-, -, -, hv⟩ | ⟨-, hrec, -, -, hv⟩
    · exact same _ (by rw [heq])
    · exact same _ (by rw [hv]; rfl)
    · exact same _ (by rw [hv])
    · exact spares_of_release ho hw hrec (congrArg View.kernel hv)
  · rcases (destroy_cases hs hw (ho.ne_null a w hw) ho.unique).2 with
      ⟨-, hv⟩ | ⟨-, hv⟩ | ⟨hrec, -, hv⟩
    · exact same _ (by rw [hv]; rfl)
    · exact same _ (by rw [hv]; rfl)
    · exact spares_of_release ho hw hrec (congrArg View.kernel hv)

end Steps

/-! ### Reusing the address of a recorded watcher -/

/-- Descriptor 5 is recycled before its watcher is destroyed, so the record of the
watcher at 100 stays; a second watcher gets the address 100, and its descriptor 6 is
recycled for the watcher at 200. -/
def reusedAddress : EpollWorld :=
  performAll (epollLoopCreate 3 fun fd => fd == 5 || fd == 6)
    [createAt 100 5, .closeFd 5, .openFd 5, .call (.destroy 100), createAt 100 6, .closeFd 6,
      .openFd 6, createAt 200 6]

/-- Stopping the second watcher finds the stale record, and deletes the membership
of the watcher at 200. -/
theorem not_spare_others :
    ¬∀ s a, runs.Reachable s → (s.heap a).isSome →
      SparesOthers s a (pdWatcherStop epollOps s a).1 := by
  intro h
  have hr : runs.Reachable reusedAddress := reach_performAll (.init ⟨3, _, rfl⟩) _ rfl
  have hkept := h reusedAddress 100 hr (by decide) 6 ⟨EPOLLIN, 200⟩ (by decide) (by decide)
    (by decide)
  revert hkept
  decide

/-- The same calls with the second watcher at an address of its own. -/
def freshAddresses : EpollWorld :=
  performAll (epollLoopCreate 3 fun fd => fd == 5 || fd == 6)
    [createAt 100 5, .closeFd 5, .openFd 5, .call (.destroy 100), createAt 300 6, .closeFd 6,
      .openFd 6, createAt 200 6]

/-- There, stopping the second watcher keeps the membership of the watcher at 200. -/
theorem freshAddresses_spared :
    (pdWatcherStop epollOps freshAddresses 300).1.sys.kernel.interest 6 = some ⟨EPOLLIN, 200⟩ := by
  have hr : runs.Reach FreshAddress freshAddresses :=
    reach_performAll (.init ⟨3, _, rfl⟩) _ rfl
  exact (stop_destroy_spare_others hr (by decide)).1 6 ⟨EPOLLIN, 200⟩ (by decide) (by decide)
    (by decide)

end Epoll
end PollDancer
