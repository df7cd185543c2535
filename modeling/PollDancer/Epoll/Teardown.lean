/-
# What is left of a destroyed watcher

After `pd_watcher_destroy` nothing in the loop should refer to the watcher: not the
watcher list, not the table, not the interest set.  That rests on the converse of
`Owned`: every membership is recorded (`Tracked.recorded`), because an unregister
without a record leaves the kernel alone.

Two steps break it.  A registration of a descriptor that is a member already evicts
the member's record and is then refused with `EEXIST`.  And an unregister that the
kernel refuses with `ENOENT` keeps the record while `pd_watcher_destroy` frees the
watcher.  In runs without the two (`Disciplined`) every reference in the loop is to a
live watcher, and `pd_watcher_destroy` is clean exactly for the watchers that are not
stuck (`destroy_clean_iff`).
-/
import PollDancer.Epoll.Ownership

namespace PollDancer
namespace Epoll

open Library

namespace View

/-- The descriptor is a member of the interest set for a watcher. -/
def Taken (v : View) (fd : ℤ) : Prop := ∃ ev ∈ v.kernel.interest fd, ev.ptr ≠ NULL

instance (v : View) (fd : ℤ) : Decidable (v.Taken fd) :=
  inferInstanceAs (Decidable (∃ ev ∈ v.kernel.interest fd, ev.ptr ≠ NULL))

instance (v : View) (a : Addr) (fd : ℤ) : Decidable (v.Stuck a fd) :=
  inferInstanceAs (Decidable ((∃ r ∈ v.table, r.watcher = a) ∧ _))

/-- Nothing in the loop refers to the watcher. -/
structure Clean (v : View) (a : Addr) : Prop where
  list : a ∉ v.occupied
  table : ¬v.HasRecord a
  kernel : ∀ fd ev, v.kernel.interest fd = some ev → ev.ptr ≠ a

end View

/-- Every reference is to a live watcher, and every membership is recorded. -/
structure Tracked (v : View) : Prop where
  live : ∀ r ∈ v.table, (v.heap r.watcher).isSome
  recorded : ∀ fd ev, v.kernel.interest fd = some ev → ev.ptr ≠ NULL → ⟨fd, ev.ptr⟩ ∈ v.table
  closed : ∀ fd, v.kernel.isOpen fd = false → v.kernel.interest fd = none
  listed : v.occupied.Nodup
  mem_occupied : ∀ a, a ∈ v.occupied ↔ (v.heap a).isSome

namespace Tracked

variable {v : View} {a : Addr} {fd : ℤ} {w : PdWatcher EpollWatcherData}
  {table : List Registration} {kernel : Kernel}

/-- Records name live watchers only. -/
theorem noRecord (h : Tracked v) (hdead : v.heap a = none) : ¬v.HasRecord a := by
  rintro ⟨r, hr, rfl⟩
  have hlive := h.live r hr
  rw [hdead] at hlive
  exact nomatch hlive

/-- A live watcher may be written to. -/
theorem setHeap (h : Tracked v) (hw : (v.heap a).isSome) (x : PdWatcher EpollWatcherData) :
    Tracked (v.setHeap a (some x)) := by
  have hsome : ∀ b, ((v.setHeap a (some x)).heap b).isSome = (v.heap b).isSome := by
    intro b
    rcases eq_or_ne b a with rfl | hb
    · rw [View.setHeap_heap_self, hw]
      rfl
    · rw [View.setHeap_heap_ne _ _ hb]
  refine ⟨fun r hr => ?_, h.recorded, h.closed, h.listed, fun b => ?_⟩
  · rw [hsome]
    exact h.live r hr
  · rw [hsome]
    exact h.mem_occupied b

/-- Table and kernel may change together as long as records stay live and
memberships recorded. -/
theorem setReg (h : Tracked v) (hlive : ∀ r ∈ table, (v.heap r.watcher).isSome)
    (hrec : ∀ fd ev, kernel.interest fd = some ev → ev.ptr ≠ NULL → ⟨fd, ev.ptr⟩ ∈ table)
    (hclosed : ∀ fd, kernel.isOpen fd = false → kernel.interest fd = none) :
    Tracked (v.setReg table kernel) :=
  ⟨hlive, hrec, hclosed, h.listed, h.mem_occupied⟩

/-- Evicting the record of a descriptor that is not a member. -/
theorem evict (h : Tracked v) (ho : Owned v) (hfree : ¬v.Taken fd) :
    Tracked (v.setReg (evicted v.table fd a) v.kernel) := by
  refine h.setReg (fun r hr => h.live r (ho.unique.mem_evictOther.1 hr).1) ?_ h.closed
  intro fd' ev hev hne
  refine ho.unique.mem_evictOther.2 ⟨h.recorded fd' ev hev hne, ?_⟩
  rintro rfl
  exact absurd ⟨ev, hev, hne⟩ hfree

/-- Giving up a record together with the membership of its descriptor. -/
theorem release (h : Tracked v) (ho : Owned v) (hw : v.heap a = some w) :
    Tracked (v.setReg (dropped v.table a) (v.kernel.release w.fd)) := by
  have hint : ∀ fd ev, (v.kernel.release w.fd).interest fd = some ev →
      fd ≠ w.fd ∧ v.kernel.interest fd = some ev := by
    intro fd ev hev
    rcases eq_or_ne fd w.fd with rfl | hne
    · cases hopen : v.kernel.isOpen w.fd with
      | true =>
          rw [Kernel.release_of_open hopen, Kernel.setInterest_interest_self] at hev
          exact nomatch hev
      | false =>
          rw [Kernel.release_of_closed hopen, h.closed _ hopen] at hev
          exact nomatch hev
    · rw [Kernel.release_interest_ne _ hne] at hev
      exact ⟨hne, hev⟩
  refine h.setReg (fun r hr => h.live r (ho.unique.mem_dropOwner.1 hr).1) ?_ ?_
  · intro fd ev hev hne
    obtain ⟨hfd, hold⟩ := hint fd ev hev
    have hr := h.recorded fd ev hold hne
    refine ho.unique.mem_dropOwner.2 ⟨hr, ?_⟩
    rintro rfl
    exact hfd (ho.holder _ hr w hw).1.symm
  · intro fd hc
    rw [Kernel.release_isOpen] at hc
    cases hi : (v.kernel.release w.fd).interest fd with
    | none => rfl
    | some ev => exact (hint fd ev hi).2.symm.trans (h.closed fd hc)

/-- Registering a live watcher on a descriptor that is not a member. -/
theorem claim (h : Tracked v) (ho : Owned v) (hw : (v.heap a).isSome)
    (hopen : v.kernel.isOpen fd = true) (hnone : v.kernel.interest fd = none) (events : UInt32) :
    Tracked (v.setReg (evicted v.table fd a ++ [⟨fd, a⟩])
      (v.kernel.setInterest fd (some ⟨events, a⟩))) := by
  refine h.setReg (fun r hr => ?_) (fun fd' ev hev hne => ?_) (fun fd' hc => ?_)
  · rcases List.mem_append.1 hr with hr | hr
    · exact h.live r (ho.unique.mem_evictOther.1 hr).1
    · obtain rfl := List.mem_singleton.1 hr
      exact hw
  · rcases eq_or_ne fd' fd with rfl | hfd
    · rw [Kernel.setInterest_interest_self] at hev
      obtain rfl := Option.some.inj hev
      exact List.mem_append_right _ (List.mem_singleton_self _)
    · rw [Kernel.setInterest_interest_ne _ _ hfd] at hev
      refine List.mem_append_left _ (ho.unique.mem_evictOther.2
        ⟨h.recorded fd' ev hev hne, fun hfd' => absurd hfd' hfd⟩)
  · have hfd : fd' ≠ fd := by
      rintro rfl
      exact nomatch hopen.symm.trans hc
    rw [Kernel.setInterest_interest_ne _ _ hfd]
    exact h.closed fd' hc

/-- Replacing the mask of a recorded membership. -/
theorem remask (h : Tracked v) (hopen : v.kernel.isOpen fd = true) (events : UInt32)
    (hown : ∀ ev, v.kernel.interest fd = some ev → ev.ptr = a)
    (hmem : (v.kernel.interest fd).isSome) :
    Tracked (v.setReg v.table (v.kernel.setInterest fd (some ⟨events, a⟩))) := by
  obtain ⟨old, hold⟩ := Option.isSome_iff_exists.1 hmem
  refine h.setReg h.live (fun fd' ev hev hne => ?_) (fun fd' hc => ?_)
  · rcases eq_or_ne fd' fd with rfl | hfd
    · rw [Kernel.setInterest_interest_self] at hev
      obtain rfl := Option.some.inj hev
      have hptr := hown old hold
      exact hptr ▸ h.recorded fd' old hold (hptr.symm ▸ hne)
    · rw [Kernel.setInterest_interest_ne _ _ hfd] at hev
      exact h.recorded fd' ev hev hne
  · have hfd : fd' ≠ fd := by
      rintro rfl
      exact nomatch hopen.symm.trans hc
    rw [Kernel.setInterest_interest_ne _ _ hfd]
    exact h.closed fd' hc

/-- Freeing a watcher that has no record, and taking it off the list. -/
theorem free (h : Tracked v) (hno : ¬v.HasRecord a) :
    Tracked ((v.setHeap a none).setOccupied (v.occupied.erase a)) where
  live := by
    intro r hr
    have hra : r.watcher ≠ a := fun hra => hno ⟨r, hr, hra⟩
    rw [View.setOccupied_heap, View.setHeap_heap_ne _ _ hra]
    exact h.live r hr
  recorded := h.recorded
  closed := h.closed
  listed := h.listed.erase a
  mem_occupied := by
    intro b
    rw [View.setOccupied_occupied, View.setOccupied_heap, h.listed.mem_erase_iff, h.mem_occupied]
    rcases eq_or_ne b a with rfl | hb
    · simp
    · rw [View.setHeap_heap_ne _ _ hb]
      exact and_iff_right hb

/-- Allocating a watcher and appending it to the list. -/
theorem alloc (h : Tracked v) (hw : v.heap a = none) (x : PdWatcher EpollWatcherData) :
    Tracked ((v.setHeap a (some x)).setOccupied (v.occupied ++ [a])) where
  live := by
    intro r hr
    have hra : r.watcher ≠ a := by
      rintro rfl
      have hlive := h.live r hr
      rw [hw] at hlive
      exact nomatch hlive
    rw [View.setOccupied_heap, View.setHeap_heap_ne _ _ hra]
    exact h.live r hr
  recorded := h.recorded
  closed := h.closed
  listed := by
    have hnot : a ∉ v.occupied := by
      rw [h.mem_occupied, hw]
      simp
    exact List.concat_eq_append ▸ h.listed.concat hnot
  mem_occupied := by
    intro b
    rw [View.setOccupied_occupied, View.setOccupied_heap, List.mem_append, h.mem_occupied,
      List.mem_singleton]
    rcases eq_or_ne b a with rfl | hb
    · simp
    · rw [View.setHeap_heap_ne _ _ hb]
      simp [hb]

end Tracked
/-! ### Disciplined runs -/

/-- No registration gets as far as the eviction on a descriptor that is a member for
a watcher already; no update goes through the membership of another watcher; no
stuck watcher is destroyed. -/
def Disciplined (s : EpollWorld) : Action → Prop
  | .call (.create fd _ _ _ env) =>
      env.backend.dataAlloc = true → (s.calloc env.calloc).isSome → ¬(view s).Taken fd
  | .call (.start a env) =>
      ∀ w ∈ s.heap a, w.active = false → env.dataAlloc = true → ¬(view s).Taken w.fd
  | .call (.update a _ _) =>
      ∀ w ∈ s.heap a, w.active = true → ∀ ev ∈ s.sys.kernel.interest w.fd, ev.ptr = a
  | .call (.destroy a) => ∀ w ∈ s.heap a, ¬(view s).Stuck a w.fd
  | _ => True

instance (s : EpollWorld) (act : Action) : Decidable (Disciplined s act) :=
  match act with
  | .call (.create ..) => inferInstanceAs (Decidable (_ → _ → ¬(view s).Taken _))
  | .call (.start a _) => inferInstanceAs (Decidable (∀ w ∈ s.heap a, _))
  | .call (.update a ..) => inferInstanceAs (Decidable (∀ w ∈ s.heap a, _))
  | .call (.destroy a) => inferInstanceAs (Decidable (∀ w ∈ s.heap a, _))
  | .call (.createForHandle ..) => inferInstanceAs (Decidable True)
  | .call (.stop _) => inferInstanceAs (Decidable True)
  | .closeFd _ => inferInstanceAs (Decidable True)
  | .openFd _ => inferInstanceAs (Decidable True)

section Steps

variable {s : EpollWorld} {a : Addr} {w : PdWatcher EpollWatcherData}

/-- A creation cannot be handed the address of a recorded watcher. -/
theorem Disciplined.freshAddress {act : Action} (h : Tracked (view s))
    (hok : Disciplined s act) : FreshAddress s act := by
  cases act with
  | closeFd fd => trivial
  | openFd fd => trivial
  | call c =>
      cases c with
      | create fd events callback userData env =>
          intro a hc r hr ho
          exact h.noRecord (World.calloc_eq_some.1 hc).2.2 ⟨r, hr, ho⟩
      | update a events env => exact hok
      | createForHandle => trivial
      | stop a => trivial
      | start a env => trivial
      | destroy a => trivial

theorem tracked_create (eventfd : ℤ) (isOpen : ℤ → Bool) :
    Tracked (view (epollLoopCreate eventfd isOpen)) where
  live := fun _ hr => nomatch hr
  recorded := by
    intro fd ev hev hne
    rw [show (view (epollLoopCreate eventfd isOpen)).kernel.interest fd = _ from
      create_interest eventfd isOpen fd] at hev
    split at hev
    · obtain rfl := Option.some.inj hev
      exact absurd rfl hne
    · exact nomatch hev
  closed := by
    intro fd hc
    rw [show (view (epollLoopCreate eventfd isOpen)).kernel.isOpen fd = _ from
      create_isOpen eventfd isOpen fd] at hc
    refine (create_interest eventfd isOpen fd).trans ?_
    split at hc
    · exact nomatch hc
    · rename_i hne
      rw [if_neg hne]
  listed := .nil
  mem_occupied := fun _ => iff_of_false (fun h => nomatch h) (fun h => nomatch h)

theorem tracked_stop (hs : Attached s) (ho : Owned (view s)) (h : Tracked (view s))
    (hw : s.heap a = some w) : Tracked (view (pdWatcherStop epollOps s a).1) := by
  have hlive : ((view s).heap a).isSome := Option.isSome_iff_exists.2 ⟨w, hw⟩
  rcases (stop_cases hs hw).2 with ⟨-, heq⟩ | ⟨-, -, -, hv⟩ | ⟨-, -, -, hv⟩ | ⟨-, -, -, -, hv⟩
  · rw [heq]
    exact h
  · rw [hv]
    exact h.setHeap hlive _
  · rw [hv]
    exact h
  · rw [hv]
    exact (h.release ho hw).setHeap hlive _

theorem tracked_start (env : EpollEnv) (hs : Attached s) (ho : Owned (view s))
    (h : Tracked (view s)) (hw : s.heap a = some w)
    (hok : w.active = false → env.dataAlloc = true → ¬(view s).Taken w.fd) :
    Tracked (view (pdWatcherStart epollOps s a env).1) := by
  have hlive : ((view s).heap a).isSome := Option.isSome_iff_exists.2 ⟨w, hw⟩
  rcases (start_cases env hs hw).2 with
    ⟨-, heq⟩ | ⟨-, -, -, hv⟩ | ⟨hact, halloc, -, hv⟩ | ⟨hact, -, hopen, hnone, hv⟩
  · rw [heq]
    exact h
  · rw [hv]
    exact h
  · rw [hv]
    exact h.evict ho (hok hact halloc)
  · rw [hv]
    exact (h.claim ho hlive hopen hnone _).setHeap hlive _

theorem tracked_update (events : PdEvent) (env : EpollEnv) (hs : Attached s)
    (ho : Owned (view s)) (h : Tracked (view s)) (hw : s.heap a = some w)
    (hok : w.active = true → ∀ ev ∈ s.sys.kernel.interest w.fd, ev.ptr = a) :
    Tracked (view (pdWatcherUpdate epollOps s a events env).1) := by
  have hlive : ((view s).heap a).isSome := Option.isSome_iff_exists.2 ⟨w, hw⟩
  rcases (update_cases' events env hs hw).2 with
    ⟨-, heq⟩ | ⟨-, -, hv⟩ | ⟨wd, -, -, -, hv⟩ | ⟨wd, hact, hpd, hopen, hmem, hv⟩
  · rw [heq]
    exact h
  · rw [hv]
    exact h.setHeap hlive _
  · rw [hv]
    exact h.setHeap hlive _
  · rw [hv, ho.own a w wd hw hpd]
    exact (h.remask hopen _ (fun ev hev => hok hact ev hev) hmem).setHeap hlive _

/-- Giving up a record leaves no record of the watcher. -/
theorem not_hasRecord_dropped {v : View} (ho : Owned v) (a : Addr) (kernel : Kernel) :
    ¬(v.setReg (dropped v.table a) kernel).HasRecord a := by
  rintro ⟨r, hr, hra⟩
  exact (ho.unique.mem_dropOwner.1 hr).2 hra

theorem tracked_destroy (hs : Attached s) (ho : Owned (view s)) (h : Tracked (view s))
    (hw : s.heap a = some w) (hok : ¬(view s).Stuck a w.fd) :
    Tracked (view (pdWatcherDestroy epollOps s a)) := by
  rcases (destroy_cases hs hw (ho.ne_null a w hw) ho.unique).2 with
    ⟨hno, hv⟩ | ⟨hstuck, -⟩ | ⟨-, -, hv⟩
  · rw [hv]
    exact h.free hno
  · exact absurd hstuck hok
  · rw [hv]
    exact (h.release ho hw).free (not_hasRecord_dropped ho a _)

theorem tracked_createWatcher (fd : ℤ) (events : PdEvent) (callback : Option Callback)
    (userData : Addr) (env : CallEnv EpollEnv) (hs : Attached s) (ho : Owned (view s))
    (h : Tracked (view s))
    (hok : env.backend.dataAlloc = true → (s.calloc env.calloc).isSome → ¬(view s).Taken fd) :
    Tracked (view (pdWatcherCreate epollOps s fd events callback userData env).1) := by
  rcases (create_cases fd events callback userData env hs).2 with
    ⟨-, heq⟩ | ⟨a, hc, hcases⟩
  · rw [heq]
    exact h
  have hdead : s.heap a = none := (World.calloc_eq_some.1 hc).2.2
  have hno : ¬(view s).HasRecord a := h.noRecord hdead
  have hu : Unique Registration.fd Registration.watcher
      (evicted s.sys.table fd a ++ [⟨fd, a⟩]) :=
    ho.unique.claim rfl rfl fun y hy hya => hno ⟨y, hy, hya⟩
  rcases hcases with ⟨-, -, hv⟩ | ⟨halloc, -, hv⟩ | ⟨-, -, hnone, hv⟩ | ⟨-, -, hopen, hnone, hv⟩
  · rw [hv]
    exact h
  · rw [hv]
    exact h.evict ho (hok halloc (by rw [hc]; rfl))
  · -- registered and given up again: as after the eviction alone
    have hfree : ¬(view s).Taken fd := by
      rintro ⟨ev, hev, -⟩
      exact nomatch hnone.symm.trans hev
    have he := h.evict (a := a) ho hfree
    rw [hv]
    refine h.setReg (fun r hr => ?_) (fun fd' ev hev hne => ?_) h.closed
    · obtain ⟨hr, hra⟩ := hu.mem_dropOwner.1 hr
      rcases List.mem_append.1 hr with hr | hr
      · exact he.live r hr
      · obtain rfl := List.mem_singleton.1 hr
        exact absurd rfl hra
    · have hr := he.recorded fd' ev hev hne
      refine hu.mem_dropOwner.2 ⟨List.mem_append_left _ hr, ?_⟩
      intro hra
      exact hno ⟨_, (ho.unique.mem_evictOther.1 hr).1, hra⟩
  · have hh : Owned ((view s).setHeap a
        (some (started a (newWatcher fd events callback userData)))) := by
      refine ho.setHeap (World.calloc_eq_some.1 hc).2.1
        (fun r hr hra => absurd ⟨r, hr, hra⟩ hno) fun wd hwd => ?_
      obtain rfl := Option.some.inj hwd
      rfl
    have ht := h.alloc hdead (started a (newWatcher fd events callback userData))
    rw [hv]
    refine ht.claim (hh.setOccupied _) ?_ hopen hnone _
    rw [View.setOccupied_heap, View.setHeap_heap_self]
    rfl

theorem tracked_close (h : Tracked (view s)) (fd : ℤ) :
    Tracked (view (closeFd s fd)) := by
  have hint : ∀ fd' ev, (s.sys.kernel.close fd).interest fd' = some ev →
      s.sys.kernel.interest fd' = some ev := by
    intro fd' ev hev
    rcases eq_or_ne fd' fd with rfl | hne
    · rw [Kernel.close_interest_self] at hev
      exact nomatch hev
    · rwa [Kernel.close_interest_ne _ hne] at hev
  rw [view_closeFd]
  refine h.setReg h.live
    (fun fd' ev hev => h.recorded fd' ev (hint fd' ev hev)) fun fd' hc => ?_
  rcases eq_or_ne fd' fd with rfl | hne
  · exact Kernel.close_interest_self ..
  · rw [Kernel.close_interest_ne _ hne]
    exact h.closed fd' ((Function.update_of_ne hne ..).symm.trans hc)

theorem tracked_open (h : Tracked (view s)) (fd : ℤ) : Tracked (view (openFd s fd)) := by
  rw [view_openFd]
  refine h.setReg h.live h.recorded fun fd' hc => ?_
  rcases eq_or_ne fd' fd with rfl | hne
  · exact nomatch (Function.update_self ..).symm.trans hc
  · exact h.closed fd' ((Function.update_of_ne hne ..).symm.trans hc)

/-- What one disciplined action preserves. -/
theorem tracked_perform {act : Action} (hs : Attached s) (ho : Owned (view s))
    (h : Tracked (view s)) (hok : Disciplined s act) : Tracked (view (perform s act)) := by
  cases act with
  | closeFd fd => exact tracked_close h fd
  | openFd fd => exact tracked_open h fd
  | call c =>
      have hdead : ∀ a, c.target = some a → s.heap a = none →
          Tracked (view (perform s (.call c))) := by
        intro a ha hw
        rw [perform, World.exec_of_not_live ha hw]
        exact h
      cases c with
      | create fd events callback userData env =>
          exact tracked_createWatcher fd events callback userData env hs ho h hok
      | createForHandle handle events callback userData env =>
          rw [perform, World.exec, epoll_createForHandle]
          exact h
      | update a events env =>
          cases hw : s.heap a with
          | none => exact hdead a rfl hw
          | some w => exact tracked_update events env hs ho h hw (hok w hw)
      | stop a =>
          cases hw : s.heap a with
          | none => exact hdead a rfl hw
          | some w => exact tracked_stop hs ho h hw
      | start a env =>
          cases hw : s.heap a with
          | none => exact hdead a rfl hw
          | some w => exact tracked_start env hs ho h hw (hok w hw)
      | destroy a =>
          cases hw : s.heap a with
          | none => exact hdead a rfl hw
          | some w => exact tracked_destroy hs ho h hw (hok w hw)

/-- What a disciplined run preserves. -/
theorem tracked_of_reach (h : runs.Reach Disciplined s) :
    Attached s ∧ Owned (view s) ∧ Tracked (view s) := by
  refine h.invariant (I := fun s => Attached s ∧ Owned (view s) ∧ Tracked (view s)) ?_ ?_
  · rintro s ⟨eventfd, isOpen, rfl⟩
    exact ⟨attached_create eventfd isOpen, owned_create eventfd isOpen,
      tracked_create eventfd isOpen⟩
  · rintro s act s' ⟨hs, ho, h⟩ hok hnext
    rw [runs_next hnext]
    obtain ⟨hs', ho'⟩ := owned_perform hs ho (hok.freshAddress h)
    exact ⟨hs', ho', tracked_perform hs ho h hok⟩

/-- Without a record, nothing but the list refers to a watcher. -/
theorem Tracked.clean_free {v : View} (h : Tracked v) (ha : a ≠ NULL) (hno : ¬v.HasRecord a) :
    ((v.setHeap a none).setOccupied (v.occupied.erase a)).Clean a where
  list := fun hmem => absurd hmem h.listed.not_mem_erase
  table := hno
  kernel := by
    rintro fd ev hev rfl
    exact hno ⟨_, h.recorded fd ev hev ha, rfl⟩

/-- **`pd_watcher_destroy` leaves nothing that refers to the watcher**, in every state
of a disciplined run and for every watcher that is not stuck; and it does leave
something of one that is. -/
theorem destroy_clean_iff (h : runs.Reach Disciplined s) (hw : s.heap a = some w) :
    (view (pdWatcherDestroy epollOps s a)).Clean a ↔ ¬(view s).Stuck a w.fd := by
  obtain ⟨hs, ho, ht⟩ := tracked_of_reach h
  have ha := ho.ne_null a w hw
  rcases (destroy_cases hs hw ha ho.unique).2 with ⟨hno, hv⟩ | ⟨hstuck, hv⟩ | ⟨-, hns, hv⟩
  · rw [hv]
    exact iff_of_true (ht.clean_free ha hno) fun hstuck => hno hstuck.1
  · rw [hv]
    exact iff_of_false (fun hclean => hclean.table hstuck.1) fun hns => hns hstuck
  · rw [hv]
    have hclean := (ht.release ho hw).clean_free ha (not_hasRecord_dropped ho a _)
    exact iff_of_true hclean hns

end Steps

/-- A watcher on descriptor 5; a second creation on the same descriptor has been
refused with `EEXIST`. -/
def refusedSecond : EpollWorld :=
  performAll (epollLoopCreate 3 fun fd => fd == 5) [createAt 100 5, createAt 200 5]

/-- The refused creation has evicted the first watcher's record: destroying that
watcher leaves its membership behind, with its address in `data.ptr`. -/
theorem not_destroy_clean :
    ¬∀ s a, runs.Reachable s → (s.heap a).isSome →
      (view (pdWatcherDestroy epollOps s a)).Clean a := by
  intro h
  have hr : runs.Reachable refusedSecond := reach_performAll (.init ⟨3, _, rfl⟩) _ rfl
  have hclean := h refusedSecond 100 hr (by decide)
  exact hclean.kernel 5 ⟨EPOLLIN, 100⟩ (by decide) rfl

/-- Two watchers, and the descriptor of the second closed and recycled. -/
def recycledSecond : EpollWorld :=
  performAll (epollLoopCreate 3 fun fd => fd == 5 || fd == 6)
    [createAt 100 5, createAt 200 6, .closeFd 6, .openFd 6]

/-- The first is destroyed cleanly, the second is stuck. -/
theorem recycledSecond_clean :
    (view (pdWatcherDestroy epollOps recycledSecond 100)).Clean 100 ∧
      ¬(view (pdWatcherDestroy epollOps recycledSecond 200)).Clean 200 := by
  have hr : runs.Reach Disciplined recycledSecond := reach_performAll (.init ⟨3, _, rfl⟩) _ rfl
  have h₁ : recycledSecond.heap 100 =
      some (started 100 (newWatcher 5 .read (some (.user 1)) NULL)) := by decide
  have h₂ : recycledSecond.heap 200 =
      some (started 200 (newWatcher 6 .read (some (.user 1)) NULL)) := by decide
  exact ⟨(destroy_clean_iff hr h₁).2 (by decide),
    fun hclean => (destroy_clean_iff hr h₂).1 hclean (by decide)⟩

end Epoll
end PollDancer
